import StepCommand.Proofs.Disk.Directories

namespace StepCommand.Disk

open Pathname (ancestor ancestors)

variable {disk after : Disk} {path : String} {paths outer : List String}
  {location origin : Location} {cause : Cause} {content : ByteArray} {result : Except Cause Unit}
  {k : Nat}

theorem makeAll_eq (disk : Disk) (path : String) (outer : List String) :
    disk.makeAll (path :: outer) =
      match disk.makeDirectory path with
      | .ok made => (.ok (), made)
      | .error .notFound =>
          match disk.makeAll outer with
          | (.ok _, made) => makeAll.again made path
          | failed => failed
      | .error .exists => (if disk.isDirectory? path then .ok () else .error .exists, disk)
      | .error cause => (.error cause, disk) := rfl

theorem again_cases (disk : Disk) (path : String) :
    (∃ made, disk.makeDirectory path = .ok made ∧ makeAll.again disk path = (.ok (), made)) ∨
    (disk.isDirectory? path = true ∧ makeAll.again disk path = (.ok (), disk)) ∨
    ∃ cause, disk.makeDirectory path = .error cause ∧
      ¬ (cause = .exists ∧ disk.isDirectory? path = true) ∧
      makeAll.again disk path = (.error cause, disk) := by
  unfold makeAll.again
  cases h : disk.makeDirectory path with
  | ok made => exact .inl ⟨made, rfl, rfl⟩
  | error cause =>
      by_cases hc : cause = .exists ∧ disk.isDirectory? path = true
      · exact .inr (.inl ⟨hc.2, by simp [hc]⟩)
      · exact .inr (.inr ⟨cause, rfl, hc, by simp [hc]⟩)

theorem grown_of_again (h : makeAll.again disk path = (result, after)) : Grown disk after := by
  obtain ⟨made, hm, ha⟩ | ⟨_, ha⟩ | ⟨_, _, _, ha⟩ := again_cases disk path
  · cases ha.symm.trans h
    exact grown_of_makeDirectory hm
  · cases ha.symm.trans h
    exact .refl disk
  · cases ha.symm.trans h
    exact .refl disk

theorem grown_of_makeAll (h : disk.makeAll paths = (result, after)) : Grown disk after := by
  induction paths generalizing result after with
  | nil =>
      cases h
      exact .refl _
  | cons path outer ih =>
      rw [makeAll_eq] at h
      split at h
      next made hm =>
        cases h
        exact grown_of_makeDirectory hm
      next =>
        cases hout : disk.makeAll outer with
        | mk inner made =>
            have hg := ih hout
            rw [hout] at h
            cases inner with
            | ok _ => exact hg.trans (grown_of_again h)
            | error other =>
                cases h
                exact hg
      next =>
        cases h
        exact .refl _
      next =>
        cases h
        exact .refl _

theorem isDirectory?_of_makeDirectory (h : disk.makeDirectory path = .ok after) :
    after.isDirectory? path = true := by
  have hg := grown_of_makeDirectory h
  obtain ⟨origin, folder, name, hs, hw, hd, hl, hdots, hsize, hnone, rfl⟩ :=
    makeDirectory_ok_cases h
  obtain ⟨front, hfront⟩ := List.getLast?_eq_some_iff.mp hl
  rw [hfront, List.dropLast_concat] at hw
  have hmade : (disk.put (folder ++ [name]) (.directory [])).entryAt (folder ++ [name]) =
      some .directory := by
    rw [entryAt_put_directory hd hnone, if_pos rfl]
  refine isDirectory?_iff.mpr ⟨origin, folder ++ [name], (hg.start path).trans hs, ?_, hmade⟩
  rw [hfront, walk_append, hg.walk hw]
  simp only [Except.bind, walk_singleton]
  exact step_ok_iff.mpr ⟨hg.kept folder _ hd, .inr (.inr ⟨⟨hdots.1, hdots.2, hsize⟩, rfl,
    Option.isSome_iff_exists.mpr ⟨_, hmade⟩⟩)⟩

theorem isDirectory?_of_makeAll (h : disk.makeAll (path :: outer) = (.ok (), after)) :
    after.isDirectory? path = true := by
  rw [makeAll_eq] at h
  split at h
  next made hm =>
    cases h
    exact isDirectory?_of_makeDirectory hm
  next =>
    cases hout : disk.makeAll outer with
    | mk inner made =>
        rw [hout] at h
        cases inner with
        | ok _ =>
            obtain ⟨more, hm, ha⟩ | ⟨hd, ha⟩ | ⟨_, _, _, ha⟩ := again_cases made path
            · cases ha.symm.trans h
              exact isDirectory?_of_makeDirectory hm
            · cases ha.symm.trans h
              exact hd
            · cases ha.symm.trans h
        | error other => cases h
  next =>
    split at h
    next hd =>
      cases h
      exact hd
    next => cases h
  next => cases h

theorem makeAll_of_isDirectory? (hne : Pathname.names path ≠ [])
    (h : disk.isDirectory? path = true) : disk.makeAll (path :: outer) = (.ok (), disk) := by
  rw [makeAll_eq, makeDirectory_of_isDirectory? hne h]
  simp [h]

theorem makeAll_again_of_ok (hne : ∀ path ∈ paths, Pathname.names path ≠ [])
    (h : disk.makeAll paths = (.ok (), after)) : after.makeAll paths = (.ok (), after) := by
  cases paths with
  | nil => rfl
  | cons path outer =>
      exact makeAll_of_isDirectory? (hne path List.mem_cons_self) (isDirectory?_of_makeAll h)

-- Where making the directories stops, if it has not stopped at once.
theorem makeAll_error_cases (h : disk.makeAll paths = (.error cause, after)) :
    after = disk ∨ ∃ front path outer, paths = front ++ path :: outer ∧
      (∀ other ∈ front ++ [path], disk.makeDirectory other = .error .notFound) ∧
      disk.makeAll outer = (.ok (), after) ∧ after.makeDirectory path = .error cause ∧
      ¬ (cause = .exists ∧ after.isDirectory? path = true) := by
  induction paths with
  | nil => cases h
  | cons path outer ih =>
      rw [makeAll_eq] at h
      split at h
      next => cases h
      next hm =>
        cases hout : disk.makeAll outer with
        | mk inner made =>
            rw [hout] at h
            cases inner with
            | ok _ =>
                obtain ⟨_, _, ha⟩ | ⟨_, ha⟩ | ⟨other, hother, hnot, ha⟩ := again_cases made path
                · cases ha.symm.trans h
                · cases ha.symm.trans h
                · cases ha.symm.trans h
                  exact .inr ⟨[], path, outer, rfl, by simpa using hm, hout, hother, hnot⟩
            | error other =>
                cases h
                obtain rfl | ⟨front, inside, rest, rfl, hfront, hrest⟩ := ih hout
                · exact .inl rfl
                · refine .inr ⟨path :: front, inside, rest, rfl, ?_, hrest⟩
                  intro other hother
                  rcases List.mem_cons.mp hother with rfl | hother
                  · exact hm
                  · exact hfront other hother
      next =>
        obtain ⟨_, rfl⟩ := Prod.mk.inj h
        exact .inl rfl
      next =>
        cases h
        exact .inl rfl

theorem makeDirectory_of_nameTooLong (hs : disk.start path = .ok origin) (hk : k ≠ 0)
    (hlt : k < (Pathname.steps path).length)
    (h : walk disk.root origin ((Pathname.steps path).take k) = .error .nameTooLong) :
    disk.makeDirectory path = .error .nameTooLong := by
  obtain ⟨more, hmore⟩ := Pathname.filter_dropLast_names hk hlt
  refine makeDirectory_of_walk_error hs (walk_of_walk_filter_error ?_)
  rw [hmore, walk_append, walk_filter_of_nameTooLong h]
  rfl

theorem makeDirectory_of_file (hs : disk.start path = .ok origin) (hk : k ≠ 0)
    (hlt : k < (Pathname.steps path).length)
    (h : walk disk.root origin ((Pathname.steps path).take k) = .ok location)
    (hf : disk.entryAt location = some (.file content)) :
    disk.makeDirectory path = .error .notDirectory := by
  obtain ⟨more, hmore⟩ := Pathname.filter_dropLast_names hk hlt
  have hw := walk_filter_of_walk h
  cases more with
  | nil =>
      rw [List.append_nil] at hmore
      rw [← hmore] at hw
      obtain hlast | hlast := walk_of_walk_filter_file hw hf
      · exact makeDirectory_in_file hs hlast hf
      · exact makeDirectory_of_walk_error hs hlast
  | cons next rest =>
      have hf : disk.root.entryAt location = some (.file content) := hf
      refine makeDirectory_of_walk_error hs (walk_of_walk_filter_error ?_)
      rw [hmore, walk_append, hw]
      simp only [Except.bind, walk, step_eq, hf, bind]

theorem eq_of_start (h : disk.start path = .ok origin) :
    origin = if Pathname.isAbsolute path then [] else disk.here := by
  unfold start at h
  split at h
  · cases h
  · split at h
    · cases h
    · exact (Except.ok.inj h).symm

theorem start_of_makeDirectory (hne : path ≠ "")
    (h : disk.makeDirectory path = .error .notFound) :
    disk.start path = .ok (if Pathname.isAbsolute path then [] else disk.here) := by
  cases hs : disk.start path with
  | ok origin => rw [eq_of_start hs]
  | error other =>
      have hother := (makeDirectory_of_start hs).symm.trans h
      cases hother
      unfold start at hs
      rw [if_neg hne] at hs
      split at hs
      · cases hs
      · cases hs

-- What stops a directory inside of another that is there: its name is too long, or a file stands
-- where it belongs.
theorem makeDirectory_error_cases {front : List String} {name : String}
    (hs : disk.start path = .ok origin) (hnames : Pathname.names path = front ++ [name])
    (hw : walk disk.root origin front = .ok location)
    (hd : disk.entryAt location = some .directory)
    (h : disk.makeDirectory path = .error cause)
    (hnot : ¬ (cause = .exists ∧ disk.isDirectory? path = true)) :
    (cause = .nameTooLong ∧ step disk.root location name = .error .nameTooLong) ∨
      (cause = .exists ∧ ∃ goal content, step disk.root location name = .ok goal ∧
        disk.entryAt goal = some (.file content)) := by
  have hisDirectory : ∀ goal, step disk.root location name = .ok goal →
      disk.entryAt goal = some .directory → disk.isDirectory? path = true := by
    intro goal hstep hgoal
    refine isDirectory?_iff.mpr ⟨origin, goal, hs, ?_, hgoal⟩
    rw [hnames, walk_append, hw]
    simp only [Except.bind, walk_singleton, hstep]
  rw [makeDirectory_eq hs (by rw [hnames, List.dropLast_concat]; exact hw) hd
    (by rw [hnames, List.getLast?_concat])] at h
  split at h
  next hdots =>
    cases h
    refine absurd ⟨rfl, ?_⟩ hnot
    rcases hdots with rfl | rfl
    · exact hisDirectory location (step_ok_iff.mpr ⟨hd, .inl ⟨rfl, rfl⟩⟩) hd
    · exact hisDirectory location.dropLast (step_ok_iff.mpr ⟨hd, .inr (.inl ⟨rfl, rfl⟩)⟩)
        (entryAt_dropLast_of_directory hd)
  next hdots =>
    split at h
    next hsize =>
      cases h
      have hd : disk.root.entryAt location = some .directory := hd
      refine .inl ⟨rfl, ?_⟩
      simp only [step_eq, hd, not_or.mp hdots, if_false, hsize, if_true]
    next hsize =>
      split at h
      next hsome =>
        cases h
        have hstep : step disk.root location name = .ok (location ++ [name]) :=
          step_ok_iff.mpr ⟨hd, .inr (.inr ⟨⟨(not_or.mp hdots).1, (not_or.mp hdots).2,
            Nat.not_lt.mp hsize⟩, rfl, hsome⟩)⟩
        obtain ⟨entry, he⟩ := Option.isSome_iff_exists.mp hsome
        cases entry with
        | directory => exact absurd ⟨rfl, hisDirectory _ hstep he⟩ hnot
        | file content => exact .inr ⟨rfl, _, content, hstep, he⟩
      next => cases h

-- Only a way back leads out of new directories to a file.
theorem back_of_file (hs : disk.start path = .ok origin) (hne : Pathname.names path ≠ [])
    (h : disk.makeDirectory path = .error .notFound) (hg : Grown disk after)
    (hw : walk after.root origin (Pathname.names path) = .ok location)
    (hf : after.entryAt location = some (.file content)) : ".." ∈ Pathname.names path := by
  refine Classical.byContradiction fun hback => ?_
  have hold := hg.walk_back hback hw (Option.isSome_iff_exists.mpr ⟨_, hg.file _ _ hf⟩)
  rw [makeDirectory_of_walk hs hne hold] at h
  cases h

-- An ancestor that cannot be made once the directories on the way to it are there keeps the whole
-- path from being made.
theorem makeDirectory_of_ancestor (hne : path ≠ "") (hk : k ≠ 0)
    (hlt : k + 1 < (Pathname.steps path).length)
    (hpath : disk.makeDirectory path = .error .notFound)
    (hinner : disk.makeDirectory (ancestor path (k + 1)) = .error .notFound)
    (hg : Grown disk after) (hd : after.isDirectory? (ancestor path k) = true)
    (h : after.makeDirectory (ancestor path (k + 1)) = .error cause)
    (hnot : ¬ (cause = .exists ∧ after.isDirectory? (ancestor path (k + 1)) = true)) :
    (cause = .nameTooLong ∧ after.makeDirectory path = .error .nameTooLong) ∨
      (".." ∈ Pathname.names path ∧ cause = .exists ∧
        after.makeDirectory path = .error .notDirectory) := by
  have hsteps : Pathname.steps path ≠ [] := by
    rintro hnil
    simp [hnil] at hlt
  have hstart := start_of_makeDirectory hne hpath
  have hstart' := start_of_makeDirectory
    (Pathname.ancestor_ne_empty (Nat.succ_ne_zero k) hsteps) hinner
  rw [Pathname.isAbsolute_ancestor (Nat.succ_ne_zero k) hsteps] at hstart'
  -- all three paths start at one place
  obtain ⟨origin, location, hs, hw, hdirectory⟩ := isDirectory?_iff.mp hd
  have horigin := eq_of_start hs
  rw [Pathname.isAbsolute_ancestor hk hsteps, hg.here] at horigin
  rw [← horigin] at hstart hstart'
  have hs₀ := (hg.start path).trans hstart
  have hs₁ := (hg.start (ancestor path (k + 1))).trans hstart'
  rw [Pathname.names_ancestor] at hw
  obtain ⟨name, hnames⟩ : ∃ name, Pathname.names (ancestor path (k + 1)) =
      (Pathname.steps path).take k ++ [name] :=
    ⟨_, (Pathname.names_ancestor path (k + 1)).trans (List.take_succ_eq_append_getElem (by omega))⟩
  have hwalk : walk after.root origin ((Pathname.steps path).take (k + 1)) =
      step after.root location name := by
    rw [← Pathname.names_ancestor, hnames, walk_append, hw]
    simp only [Except.bind, walk_singleton]
  obtain ⟨rfl, hstep⟩ | ⟨rfl, goal, content, hstep, hf⟩ :=
    makeDirectory_error_cases hs₁ hnames hw hdirectory h hnot
  · exact .inl ⟨rfl, makeDirectory_of_nameTooLong hs₀ (Nat.succ_ne_zero k) hlt (hwalk.trans hstep)⟩
  · have hblocked := makeDirectory_of_file hs₀ (Nat.succ_ne_zero k) hlt (hwalk.trans hstep) hf
    have hback := back_of_file hstart' (by simp [hnames]) hinner hg
      (by rw [Pathname.names_ancestor]; exact hwalk.trans hstep) hf
    rw [Pathname.names_ancestor] at hback
    exact .inr ⟨Pathname.mem_names_of_mem_steps (List.mem_of_mem_take hback), rfl, hblocked⟩

-- Making the directories again fails again, and changes nothing more.
theorem makeDirectories_again_of_error (h : disk.makeDirectories path = (.error cause, after)) :
    ∃ other, after.makeDirectories path = (.error other, after) ∧
      (other = cause ∨
        (".." ∈ Pathname.names path ∧ cause = .exists ∧ other = .notDirectory)) := by
  unfold makeDirectories at h ⊢
  split at h
  next => cases h
  next hpath =>
    rw [if_neg hpath]
    have hne := (not_or.mp hpath).1
    have hsteps := (not_or.mp hpath).2
    obtain rfl | ⟨front, inner, outer, hsplit, hfront, hout, hinner, hnot⟩ :=
      makeAll_error_cases h
    · exact ⟨cause, h, .inl rfl⟩
    · cases front with
      | nil =>
          -- the directories on the way are there, and the last one cannot be made
          obtain ⟨rfl, rfl⟩ := List.cons.inj hsplit
          have houter : after.makeAll (Pathname.parents path) = (.ok (), after) := by
            refine makeAll_again_of_ok (fun other hmem => ?_) hout
            rw [Pathname.parents_eq] at hmem
            exact Pathname.names_ne_nil_of_mem_ancestors hsteps hmem
          refine ⟨cause, ?_, .inl rfl⟩
          rw [makeAll_eq, hinner]
          cases cause with
          | notFound => simp [houter, makeAll.again, hinner]
          | «exists» =>
              have hd : after.isDirectory? path = false := by simpa using hnot
              simp [hd]
          | _ => rfl
      | cons first front =>
          obtain ⟨rfl, hparents⟩ := List.cons.inj hsplit
          rw [Pathname.parents_eq] at hparents
          obtain ⟨hle, rfl, houter⟩ := Pathname.eq_of_ancestors_eq_append hparents
          have hnotFound : disk.makeDirectory path = .error .notFound :=
            hfront path (by simp)
          cases hlength : outer.length with
          | zero =>
              rw [List.length_eq_zero_iff.mp hlength] at hout
              cases hout
              exact ⟨cause, h, .inl rfl⟩
          | succ k =>
              rw [hlength] at hle hinner hnot houter hfront
              have hd : after.isDirectory? (ancestor path (k + 1)) = true := by
                rw [houter] at hout
                exact isDirectory?_of_makeAll hout
              obtain ⟨rfl, hblocked⟩ | ⟨hback, rfl, hblocked⟩ :=
                makeDirectory_of_ancestor hne (Nat.succ_ne_zero k) (by omega) hnotFound
                  (hfront _ (by simp)) (grown_of_makeAll hout) hd hinner hnot
              · exact ⟨.nameTooLong, by rw [makeAll_eq, hblocked], .inl rfl⟩
              · exact ⟨.notDirectory, by rw [makeAll_eq, hblocked], .inr ⟨hback, rfl, rfl⟩⟩

-- Where the directories have been made, they are there, and stay there.
theorem makeDirectories_of_isDirectory? (h : disk.makeDirectories path = (.ok (), after)) :
    (∀ other : Disk, other.makeDirectories path = (.ok (), other)) ∨
      (after.isDirectory? path = true ∧ ∀ other : Disk, other.isDirectory? path = true →
        other.makeDirectories path = (.ok (), other)) := by
  unfold makeDirectories at h
  split at h
  next hpath => exact .inl fun other => by rw [makeDirectories, if_pos hpath]
  next hpath =>
    refine .inr ⟨isDirectory?_of_makeAll h, fun other hd => ?_⟩
    rw [makeDirectories, if_neg hpath]
    exact makeAll_of_isDirectory? (Pathname.names_ne_nil (not_or.mp hpath).2) hd

end StepCommand.Disk
