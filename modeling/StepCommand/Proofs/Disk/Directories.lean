import StepCommand.Proofs.Disk.File
import StepCommand.Proofs.Pathname.Parents

namespace StepCommand.Disk

open FileTree (Entry)

variable {disk mid after : Disk} {path name : String} {outer paths : List String}
  {location origin goal folder : Location} {cause : Cause} {content : ByteArray}

theorem makeDirectory_of_start (h : disk.start path = .error cause) :
    disk.makeDirectory path = .error cause := by
  simp [makeDirectory, place, h, bind, Except.bind]

theorem makeDirectory_of_walk_error (hs : disk.start path = .ok origin)
    (h : walk disk.root origin (Pathname.names path).dropLast = .error cause) :
    disk.makeDirectory path = .error cause := by
  simp [makeDirectory, place, hs, h, bind, Except.bind]

theorem makeDirectory_in_file (hs : disk.start path = .ok origin)
    (hw : walk disk.root origin (Pathname.names path).dropLast = .ok location)
    (hf : disk.entryAt location = some (.file content)) :
    disk.makeDirectory path = .error .notDirectory := by
  have hfind := FileTree.entryAt_eq_file_iff.mp hf
  simp [makeDirectory, place, hs, hw, entriesAt, hfind, bind, Except.bind]

theorem makeDirectory_eq (hs : disk.start path = .ok origin)
    (hw : walk disk.root origin (Pathname.names path).dropLast = .ok folder)
    (hd : disk.entryAt folder = some .directory)
    (hl : (Pathname.names path).getLast? = some name) :
    disk.makeDirectory path =
      if name = "." ∨ name = ".." then .error .exists
      else if name.utf8ByteSize > maxName then .error .nameTooLong
      else if (disk.entryAt (folder ++ [name])).isSome then .error .exists
      else .ok (disk.put (folder ++ [name]) (.directory [])) := by
  obtain ⟨entries, hf⟩ := FileTree.entryAt_eq_directory_iff.mp hd
  have he : disk.entryAt (folder ++ [name]) = (entries.lookup name).map FileTree.entry :=
    FileTree.entryAt_append_singleton hf name
  have hplace : disk.place path = .ok (folder, entries,
      (some name).filter fun name => name ≠ "." ∧ name ≠ "..") :=
    place_ok_iff.mpr ⟨origin, hs, hw, hf, by rw [hl]⟩
  rw [he]
  simp only [makeDirectory, hplace, bind, Except.bind]
  by_cases hdots : name = "." ∨ name = ".."
  · have hfilter : (some name).filter (fun name => name ≠ "." ∧ name ≠ "..") = none := by
      rcases hdots with rfl | rfl <;> simp
    rw [hfilter, if_pos hdots]
    rfl
  · have hname := not_or.mp hdots
    have hfilter : (some name).filter (fun name => name ≠ "." ∧ name ≠ "..") = some name := by
      simp [hname.1, hname.2]
    rw [hfilter, if_neg hdots]
    by_cases hsize : name.utf8ByteSize > maxName
    · simp [find, hsize]
    · cases hlook : entries.lookup name with
      | none => simp [find, hsize, hlook, pure, Except.pure]
      | some tree => simp [find, hsize, hlook, throw, throwThe, MonadExceptOf.throw]

theorem makeDirectory_ok_cases (h : disk.makeDirectory path = .ok after) :
    ∃ origin folder name, disk.start path = .ok origin ∧
      walk disk.root origin (Pathname.names path).dropLast = .ok folder ∧
      disk.entryAt folder = some .directory ∧ (Pathname.names path).getLast? = some name ∧
      (name ≠ "." ∧ name ≠ "..") ∧ name.utf8ByteSize ≤ maxName ∧
      disk.entryAt (folder ++ [name]) = none ∧
      after = disk.put (folder ++ [name]) (.directory []) := by
  cases hp : disk.place path with
  | error other => simp [makeDirectory, hp, bind, Except.bind] at h
  | ok found =>
      obtain ⟨folder, entries, last⟩ := found
      obtain ⟨origin, hs, hw, hf, hlast⟩ := place_ok_iff.mp hp
      have hd := FileTree.entryAt_eq_directory_iff.mpr ⟨entries, hf⟩
      cases hl : (Pathname.names path).getLast? with
      | none =>
          simp [hlast, hl, makeDirectory, hp, bind, Except.bind, throw, throwThe,
            MonadExceptOf.throw] at h
      | some name =>
          rw [makeDirectory_eq hs hw hd hl] at h
          split at h
          · cases h
          next hdots =>
            split at h
            · cases h
            next hsize =>
              split at h
              · cases h
              next hnone =>
                cases h
                exact ⟨origin, folder, name, hs, hw, hd, rfl, not_or.mp hdots,
                  Nat.not_lt.mp hsize, by simpa using hnone, rfl⟩

-- What there is already cannot be made.
theorem makeDirectory_of_walk (hs : disk.start path = .ok origin) (hne : Pathname.names path ≠ [])
    (hw : walk disk.root origin (Pathname.names path) = .ok goal) :
    disk.makeDirectory path = .error .exists := by
  rw [← List.dropLast_concat_getLast hne, walk_append] at hw
  cases hd : walk disk.root origin (Pathname.names path).dropLast with
  | error other => simp [hd, Except.bind] at hw
  | ok folder =>
      simp only [hd, Except.bind, walk_singleton] at hw
      obtain ⟨hdirectory, hgoal⟩ := step_ok_iff.mp hw
      rw [makeDirectory_eq hs hd hdirectory (List.getLast?_eq_some_getLast hne)]
      obtain ⟨hdot, _⟩ | ⟨hdots, _⟩ | ⟨⟨hdot, hdots, hsize⟩, rfl, hsome⟩ := hgoal
      · rw [if_pos (.inl hdot)]
      · rw [if_pos (.inr hdots)]
      · have hsome : (disk.entryAt _).isSome = true := hsome
        rw [if_neg (by simp [hdot, hdots]), if_neg (Nat.not_lt.mpr hsize), if_pos hsome]

theorem makeDirectory_of_isDirectory? (hne : Pathname.names path ≠ [])
    (h : disk.isDirectory? path = true) : disk.makeDirectory path = .error .exists := by
  obtain ⟨origin, goal, hs, hw, _⟩ := isDirectory?_iff.mp h
  exact makeDirectory_of_walk hs hne hw

structure Grown (before after : Disk) : Prop where
  here : after.here = before.here
  kept : ∀ location entry, before.entryAt location = some entry →
    after.entryAt location = some entry
  file : ∀ location content, after.entryAt location = some (.file content) →
    before.entryAt location = some (.file content)

theorem entryAt_put_directory (hd : disk.entryAt folder = some .directory)
    (hnone : disk.entryAt (folder ++ [name]) = none) (location : Location) :
    (disk.put (folder ++ [name]) (.directory [])).entryAt location =
      if location = folder ++ [name] then some .directory else disk.entryAt location := by
  obtain ⟨entries, hf⟩ := FileTree.entryAt_eq_directory_iff.mp hd
  have he : (entries.lookup name).map FileTree.entry = none := by
    rw [← FileTree.entryAt_append_singleton hf]
    exact hnone
  exact FileTree.entryAt_put hf (by simp [he]) (fun _ _ => rfl) location

theorem grown_of_makeDirectory (h : disk.makeDirectory path = .ok after) : Grown disk after := by
  obtain ⟨_, folder, name, _, _, hd, _, _, _, hnone, rfl⟩ := makeDirectory_ok_cases h
  refine ⟨rfl, ?_, ?_⟩
  · intro location entry h
    rw [entryAt_put_directory hd hnone, if_neg]
    · exact h
    · rintro rfl
      rw [hnone] at h
      cases h
  · intro location content h
    rw [entryAt_put_directory hd hnone] at h
    split at h
    · cases h
    · exact h

namespace Grown

theorem refl (disk : Disk) : Grown disk disk := ⟨rfl, fun _ _ h => h, fun _ _ h => h⟩

theorem trans (h₁ : Grown disk mid) (h₂ : Grown mid after) : Grown disk after where
  here := h₂.here.trans h₁.here
  kept := fun location entry h => h₂.kept location entry (h₁.kept location entry h)
  file := fun location content h => h₁.file location content (h₂.file location content h)

theorem start (hg : Grown disk after) (path : String) : after.start path = disk.start path := by
  simp only [Disk.start, hg.here]

theorem isSome (hg : Grown disk after) (h : (disk.entryAt location).isSome) :
    (after.entryAt location).isSome := by
  obtain ⟨entry, he⟩ := Option.isSome_iff_exists.mp h
  simp [hg.kept location entry he]

theorem walk (hg : Grown disk after) {names : List String}
    (h : Disk.walk disk.root location names = .ok goal) :
    Disk.walk after.root location names = .ok goal := by
  induction names generalizing location with
  | nil => exact h
  | cons name rest ih =>
      obtain ⟨next, hs, hw⟩ := walk_cons_ok_iff.mp h
      refine walk_cons_ok_iff.mpr ⟨next, ?_, ih hw⟩
      obtain ⟨hd, hgoal⟩ := step_ok_iff.mp hs
      refine step_ok_iff.mpr ⟨hg.kept location _ hd, ?_⟩
      obtain hdot | hdots | ⟨hname, he, hsome⟩ := hgoal
      · exact .inl hdot
      · exact .inr (.inl hdots)
      · exact .inr (.inr ⟨hname, he, hg.isSome hsome⟩)

-- Without a way back, a walk to something that was there before went through what was there.
theorem walk_back (hg : Grown disk after) {names : List String} (hdots : ".." ∉ names)
    (h : Disk.walk after.root location names = .ok goal)
    (hsome : (disk.entryAt goal).isSome) : Disk.walk disk.root location names = .ok goal := by
  induction names generalizing location with
  | nil => exact h
  | cons name rest ih =>
      simp only [List.mem_cons, not_or] at hdots
      obtain ⟨next, hs, hw⟩ := walk_cons_ok_iff.mp h
      have hrest := ih hdots.2 hw
      refine walk_cons_ok_iff.mpr ⟨next, ?_, hrest⟩
      obtain ⟨hd, hgoal⟩ := step_ok_iff.mp hs
      -- both ends of the step are on the way to the goal
      have hnext : (disk.entryAt next).isSome :=
        FileTree.isSome_entryAt_of_prefix (prefix_of_walk hdots.2 hw) hsome
      have hlocation : disk.entryAt location = some .directory := by
        have hprefix : location <+: goal :=
          prefix_of_walk (by simp [hdots.1, hdots.2]) h
        obtain ⟨entry, he⟩ :=
          Option.isSome_iff_exists.mp (FileTree.isSome_entryAt_of_prefix hprefix hsome)
        have hentry := Option.some.inj ((hg.kept location entry he).symm.trans hd)
        exact hentry ▸ he
      refine step_ok_iff.mpr ⟨hlocation, ?_⟩
      obtain hdot | hdots | ⟨hname, he, _⟩ := hgoal
      · exact .inl hdot
      · exact .inr (.inl hdots)
      · exact .inr (.inr ⟨hname, he, hnext⟩)

end Grown

end StepCommand.Disk
