import Mathlib.Tactic.SplitIfs
import StepCommand.Disk
import StepCommand.Proofs.FileTree

namespace StepCommand.Disk

open FileTree (Entry)

variable {root before after : FileTree} {location target goal : Location} {name : String}
  {names : List String} {cause : Cause} {content : ByteArray}

-- A step reads two entries of the tree: where it starts, and what it looks for.
theorem step_eq (root : FileTree) (location : Location) (name : String) :
    step root location name =
      match root.entryAt location with
      | some .directory =>
          if name = "." then .ok location
          else if name = ".." then .ok location.dropLast
          else if name.utf8ByteSize > maxName then .error .nameTooLong
          else if (root.entryAt (location ++ [name])).isSome then .ok (location ++ [name])
          else .error .notFound
      | some (.file _) => .error .notDirectory
      | none => .error .notFound := by
  unfold step entriesAt
  cases h : root.find? location with
  | none => simp [FileTree.entryAt, h]; rfl
  | some inner =>
      cases inner with
      | file content => simp [FileTree.entryAt, h, FileTree.entry]; rfl
      | directory entries =>
          have hd : root.entryAt location = some .directory :=
            FileTree.entryAt_eq_directory_iff.mpr ⟨entries, h⟩
          rw [hd, FileTree.entryAt_append_singleton h]
          simp only [find, bind, Except.bind, pure, Except.pure, throw, throwThe,
            MonadExceptOf.throw]
          by_cases h1 : name = "."
          · simp [h1]
          by_cases h2 : name = ".."
          · simp [h2]
          by_cases h3 : name.utf8ByteSize > maxName
          · simp [h1, h2, h3]
          simp only [h1, h2, h3, if_false]
          cases entries.lookup name <;> rfl

theorem step_ok_iff :
    step root location name = .ok goal ↔
      root.entryAt location = some .directory ∧
        (name = "." ∧ goal = location ∨ name = ".." ∧ goal = location.dropLast ∨
          (name ≠ "." ∧ name ≠ ".." ∧ name.utf8ByteSize ≤ maxName) ∧
            goal = location ++ [name] ∧ (root.entryAt goal).isSome) := by
  rw [step_eq]
  split
  next hd =>
    simp only [hd, true_and]
    split_ifs with h1 h2 h3 h4
    · simp only [h1, Except.ok.injEq, true_and, ne_eq, not_true_eq_false, false_and, or_false,
        String.reduceEq]
      exact eq_comm
    · simp only [h2, Except.ok.injEq, true_and, ne_eq, not_true_eq_false, false_and, and_false,
        or_false, String.reduceEq, false_or]
      exact eq_comm
    · simp [h1, h2, Nat.not_le.mpr h3]
    · simp only [Except.ok.injEq, h1, h2, Nat.not_lt.mp h3, true_and, false_and, false_or,
        not_false_eq_true, ne_eq]
      constructor
      · rintro rfl
        exact ⟨rfl, h4⟩
      · rintro ⟨rfl, _⟩
        rfl
    · simp only [false_iff, h1, h2, false_and, false_or]
      rintro ⟨_, rfl, hs⟩
      exact h4 hs
  next hf => simp [hf]
  next hn => simp [hn]

theorem directory_of_step (h : step root location name = .ok goal) :
    root.entryAt location = some .directory := (step_ok_iff.mp h).1

theorem entryAt_dropLast_of_directory (h : root.entryAt location = some .directory) :
    root.entryAt location.dropLast = some .directory := by
  by_cases hne : location = []
  · subst hne
    exact h
  · exact FileTree.entryAt_dropLast hne (by simp [h])

theorem walk_append (root : FileTree) (location : Location) (names rest : List String) :
    walk root location (names ++ rest) =
      (walk root location names).bind fun goal => walk root goal rest := by
  induction names generalizing location with
  | nil => rfl
  | cons name names ih =>
      simp only [List.cons_append, walk, bind]
      cases step root location name with
      | error cause => rfl
      | ok next => exact ih next

theorem walk_cons_ok_iff :
    walk root location (name :: names) = .ok goal ↔
      ∃ next, step root location name = .ok next ∧ walk root next names = .ok goal := by
  simp only [walk, bind]
  cases h : step root location name with
  | error cause => simp [Except.bind]
  | ok next => simp [Except.bind]

theorem walk_singleton (root : FileTree) (location : Location) (name : String) :
    walk root location [name] = step root location name := by
  simp only [walk, bind]
  cases step root location name <;> rfl

-- A file is reached by its name.
theorem goal_of_walk_file {content : ByteArray} (hne : names ≠ [])
    (h : walk root location names = .ok goal) (hf : root.entryAt goal = some (.file content)) :
    goal.getLast? = names.getLast? := by
  rw [← List.dropLast_concat_getLast hne, walk_append] at h
  cases hw : walk root location names.dropLast with
  | error cause => simp [hw, Except.bind] at h
  | ok next =>
      simp only [hw, Except.bind, walk_singleton] at h
      rw [List.getLast?_eq_some_getLast hne]
      obtain ⟨hd, ⟨_, rfl⟩ | ⟨_, rfl⟩ | ⟨_, rfl, _⟩⟩ := step_ok_iff.mp h
      · simp [hd] at hf
      · simp [entryAt_dropLast_of_directory hd] at hf
      · simp

-- Without a way back, a walk goes on from where it starts.
theorem prefix_of_walk (hdots : ".." ∉ names) (h : walk root location names = .ok goal) :
    location <+: goal := by
  induction names generalizing location with
  | nil =>
      cases h
      exact List.prefix_rfl
  | cons name rest ih =>
      simp only [List.mem_cons, not_or] at hdots
      obtain ⟨next, hs, hw⟩ := walk_cons_ok_iff.mp h
      refine List.IsPrefix.trans ?_ (ih hdots.2 hw)
      obtain ⟨_, ⟨_, rfl⟩ | ⟨rfl, _⟩ | ⟨_, rfl, _⟩⟩ := step_ok_iff.mp hs
      · exact List.prefix_rfl
      · exact absurd rfl hdots.1
      · exact List.prefix_append _ _

theorem step_dot (h : root.entryAt location = some .directory) :
    step root location "." = .ok location := by
  simp [step_eq, h]

theorem walk_of_walk_filter_error
    (h : walk root location (names.filter (· ≠ ".")) = .error cause) :
    walk root location names = .error cause := by
  induction names generalizing location with
  | nil => exact h
  | cons name rest ih =>
      by_cases hd : name = "."
      · subst hd
        rw [List.filter_cons_of_neg (by simp)] at h
        rw [walk, step_eq]
        cases he : root.entryAt location with
        | some entry =>
            cases entry with
            | directory => exact ih h
            | file content =>
                -- the next name fails in the same way
                cases hf : rest.filter (· ≠ ".") with
                | nil =>
                    rw [hf] at h
                    cases h
                | cons next more =>
                    rw [hf, walk, step_eq, he] at h
                    exact h
        | none =>
            cases hf : rest.filter (· ≠ ".") with
            | nil =>
                rw [hf] at h
                cases h
            | cons next more =>
                rw [hf, walk, step_eq, he] at h
                exact h
      · rw [List.filter_cons_of_pos (by simpa using hd)] at h
        rw [walk] at h ⊢
        cases hs : step root location name with
        | error other =>
            rw [hs] at h
            exact h
        | ok next =>
            rw [hs] at h
            exact ih h

-- A walk that ends at a file does so whatever dots there are, if none comes after the file.
theorem walk_of_walk_filter_file
    (h : walk root location (names.filter (· ≠ ".")) = .ok goal)
    (hf : root.entryAt goal = some (.file content)) :
    walk root location names = .ok goal ∨ walk root location names = .error .notDirectory := by
  induction names generalizing location with
  | nil => exact .inl h
  | cons name rest ih =>
      by_cases hd : name = "."
      · subst hd
        rw [List.filter_cons_of_neg (by simp)] at h
        rw [walk, step_eq]
        cases he : root.entryAt location with
        | some entry =>
            cases entry with
            | directory => exact ih h
            | file content => exact .inr rfl
        | none =>
            cases hl : rest.filter (· ≠ ".") with
            | nil =>
                rw [hl] at h
                cases h
                rw [he] at hf
                cases hf
            | cons next more =>
                rw [hl, walk, step_eq, he] at h
                cases h
      · rw [List.filter_cons_of_pos (by simpa using hd)] at h
        rw [walk] at h ⊢
        cases hs : step root location name with
        | error other =>
            rw [hs] at h
            cases h
        | ok next =>
            rw [hs] at h
            exact ih h

theorem walk_filter_of_walk (h : walk root location names = .ok goal) :
    walk root location (names.filter (· ≠ ".")) = .ok goal := by
  induction names generalizing location with
  | nil => exact h
  | cons name rest ih =>
      obtain ⟨next, hs, hw⟩ := walk_cons_ok_iff.mp h
      by_cases hd : name = "."
      · subst hd
        rw [step_dot (directory_of_step hs)] at hs
        cases hs
        rw [List.filter_cons_of_neg (by simp)]
        exact ih hw
      · rw [List.filter_cons_of_pos (by simpa using hd)]
        exact walk_cons_ok_iff.mpr ⟨next, hs, ih hw⟩

theorem walk_filter_of_nameTooLong (h : walk root location names = .error .nameTooLong) :
    walk root location (names.filter (· ≠ ".")) = .error .nameTooLong := by
  induction names generalizing location with
  | nil => exact h
  | cons name rest ih =>
      rw [walk] at h
      by_cases hd : name = "."
      · subst hd
        rw [step_eq] at h
        cases he : root.entryAt location with
        | some entry =>
            rw [he] at h
            cases entry with
            | directory =>
                rw [List.filter_cons_of_neg (by simp)]
                exact ih h
            | file content => cases h
        | none =>
            rw [he] at h
            cases h
      · rw [List.filter_cons_of_pos (by simpa using hd), walk]
        cases hs : step root location name with
        | error other =>
            rw [hs] at h
            exact h
        | ok next =>
            rw [hs] at h
            exact ih h

-- One tree differs from the other in a file alone, which may be new.
structure Walk.Rewritten (target : Location) (before after : FileTree) : Prop where
  other : ∀ location, location ≠ target → after.entryAt location = before.entryAt location
  replaced : before.entryAt target ≠ some .directory
  written : ∃ content, after.entryAt target = some (.file content)

namespace Walk.Rewritten

theorem directory_iff (hr : Walk.Rewritten target before after) (location : Location) :
    after.entryAt location = some .directory ↔ before.entryAt location = some .directory := by
  by_cases he : location = target
  · subst he
    obtain ⟨content, hc⟩ := hr.written
    simp [hc, hr.replaced]
  · rw [hr.other location he]

theorem isSome (hr : Walk.Rewritten target before after)
    (h : (before.entryAt location).isSome) : (after.entryAt location).isSome := by
  by_cases he : location = target
  · subst he
    obtain ⟨content, hc⟩ := hr.written
    simp [hc]
  · rwa [hr.other location he]

theorem step (hr : Walk.Rewritten target before after) (h : step before location name = .ok goal) :
    Disk.step after location name = .ok goal := by
  obtain ⟨hd, hgoal⟩ := step_ok_iff.mp h
  refine step_ok_iff.mpr ⟨(hr.directory_iff location).mpr hd, ?_⟩
  obtain hdot | hdots | ⟨hname, he, hs⟩ := hgoal
  · exact .inl hdot
  · exact .inr (.inl hdots)
  · exact .inr (.inr ⟨hname, he, hr.isSome hs⟩)

theorem step_back (hr : Walk.Rewritten target before after)
    (h : Disk.step after location name = .ok goal) (hne : goal ≠ target) :
    Disk.step before location name = .ok goal := by
  obtain ⟨hd, hgoal⟩ := step_ok_iff.mp h
  refine step_ok_iff.mpr ⟨(hr.directory_iff location).mp hd, ?_⟩
  obtain hdot | hdots | ⟨hname, he, hs⟩ := hgoal
  · exact .inl hdot
  · exact .inr (.inl hdots)
  · exact .inr (.inr ⟨hname, he, hr.other goal hne ▸ hs⟩)

theorem walk (hr : Walk.Rewritten target before after) (h : walk before location names = .ok goal) :
    Disk.walk after location names = .ok goal := by
  induction names generalizing location with
  | nil => exact h
  | cons name names ih =>
      obtain ⟨next, hs, hw⟩ := walk_cons_ok_iff.mp h
      exact walk_cons_ok_iff.mpr ⟨next, hr.step hs, ih hw⟩

-- On the way are directories, and none of them is the file.
theorem walk_back (hr : Walk.Rewritten target before after)
    (h : Disk.walk after location names = .ok goal) (hne : goal ≠ target) :
    Disk.walk before location names = .ok goal := by
  induction names generalizing location with
  | nil => exact h
  | cons name names ih =>
      obtain ⟨next, hs, hw⟩ := walk_cons_ok_iff.mp h
      refine walk_cons_ok_iff.mpr ⟨next, hr.step_back hs ?_, ih hw⟩
      cases names with
      | nil =>
          cases hw
          exact hne
      | cons second rest =>
          obtain ⟨_, hsecond, _⟩ := walk_cons_ok_iff.mp hw
          rintro rfl
          exact hr.replaced ((hr.directory_iff _).mp (directory_of_step hsecond))

end Walk.Rewritten

end StepCommand.Disk
