import StepCommand.Proofs.Disk.File
import StepCommand.Proofs.Volume.Follow

namespace StepCommand.Volume

open Disk (Cause)
open FileTree (Entry)

variable {v w after : Volume} {location origin place target : Location} {path text : String}
  {names : List String} {count : Nat} {cause : Cause} {content : ByteArray}

theorem entryAt_nil_of_directory (h : v.entryAt location = some .directory) :
    v.entryAt [] = some .directory := by
  unfold entryAt FileTree.entryAt at h ⊢
  cases hroot : v.disk.root with
  | file content =>
      rw [hroot] at h
      cases location <;> simp [FileTree.find?, FileTree.entry] at h
  | directory entries => simp [FileTree.entry]

namespace Leads

-- The end of a way is in a directory, whether anything is there or not.
theorem directory (h : Leads v count location names place)
    (hstart : names = [] → v.entryAt location.dropLast = some .directory) :
    v.entryAt place.dropLast = some .directory := by
  induction h with
  | here count location => exact hstart rfl
  | dot entered tail ih =>
      exact ih fun _ => Disk.entryAt_dropLast_of_directory (enter_ok_iff.mp entered).1
  | dots entered tail ih =>
      have hd := Disk.entryAt_dropLast_of_directory (enter_ok_iff.mp entered).1
      exact ih fun _ => Disk.entryAt_dropLast_of_directory hd
  | name entered dots size none tail ih =>
      refine ih fun _ => ?_
      rw [List.dropLast_concat]
      exact (enter_ok_iff.mp entered).1
  | link entered dots size some start tail ih =>
      have hd := (enter_ok_iff.mp entered).1
      refine ih fun _ => ?_
      obtain rfl | rfl := eq_of_origin? start
      · exact Disk.entryAt_dropLast_of_directory hd
      · exact entryAt_nil_of_directory hd

-- Without links, what is no directory is reached by its name.
theorem getLast?_eq (h : Leads v count location names place) (hlinks : v.links = [])
    (hne : names ≠ []) (hplace : v.entryAt place ≠ some .directory) :
    place.getLast? = names.getLast? := by
  induction h with
  | here count location => exact absurd rfl hne
  | @dot count location place rest entered tail ih =>
      cases rest with
      | nil =>
          cases tail
          exact absurd (enter_ok_iff.mp entered).1 hplace
      | cons next more => rw [ih (List.cons_ne_nil _ _) hplace, List.getLast?_cons_cons]
  | @dots count location place rest entered tail ih =>
      cases rest with
      | nil =>
          cases tail
          exact absurd (Disk.entryAt_dropLast_of_directory (enter_ok_iff.mp entered).1) hplace
      | cons next more => rw [ih (List.cons_ne_nil _ _) hplace, List.getLast?_cons_cons]
  | @name count location place name rest entered dots size none tail ih =>
      cases rest with
      | nil =>
          cases tail
          simp
      | cons next more => rw [ih (List.cons_ne_nil _ _) hplace, List.getLast?_cons_cons]
  | link entered dots size some start tail ih =>
      rw [hlinks] at some
      cases some

end Leads

-- Where a path leads.
def target? (v : Volume) (path : String) : Option Location := (v.resolve path).toOption

theorem target?_eq_some_iff :
    v.target? path = some target ↔
      ∃ origin, v.disk.start path = .ok origin ∧
        Leads v maxLinks origin (Pathname.names path) target := by
  have hresolve : v.target? path = some target ↔ v.resolve path = .ok target := by
    unfold target?
    cases v.resolve path <;> simp [Except.toOption]
  rw [hresolve, resolve, Except.bind_ok_iff]
  simp only [follow_ok_iff]

theorem names_ne_nil (h : Pathname.NamesFile path) : Pathname.names path ≠ [] := by
  obtain ⟨name, hlast, _⟩ := h.last
  intro hnil
  rw [hnil] at hlast
  cases hlast

theorem directory_of_target? (hnames : Pathname.NamesFile path)
    (ht : v.target? path = some target) : v.entryAt target.dropLast = some .directory := by
  obtain ⟨origin, _, hleads⟩ := target?_eq_some_iff.mp ht
  exact hleads.directory fun hnil => absurd hnil (names_ne_nil hnames)

theorem resolve_ok_iff : v.resolve path = .ok target ↔ v.target? path = some target := by
  unfold target?
  cases v.resolve path <;> simp [Except.toOption]

-- Where a path to a directory leads. Names that are joined to the empty path are looked up in the
-- working directory.
def folder? (v : Volume) (directory : String) : Option Location :=
  if directory = "" then some v.disk.here else v.target? directory

-- A name that is joined to a directory is looked up in it.
theorem folder?_of_target?_join {directory name : String} (hname : Pathname.IsName name)
    (hdots : name ≠ "." ∧ name ≠ "..")
    (h : v.target? (Pathname.join directory name) = some target) :
    ∃ folder, v.folder? directory = some folder ∧ v.entryAt folder = some .directory ∧
      (v.links.lookup (folder ++ [name]) = none → target = folder ++ [name]) := by
  obtain ⟨origin, hs, hleads⟩ := target?_eq_some_iff.mp h
  rw [Pathname.names_join directory hname] at hleads
  obtain ⟨fewer, folder, hfront, hlast⟩ := hleads.of_append
  have hfolder : v.folder? directory = some folder := by
    unfold folder?
    by_cases hempty : directory = ""
    · subst hempty
      rw [Pathname.names_empty] at hfront
      cases hfront
      have hjoin : Pathname.join "" name = name := by simp [Pathname.join]
      rw [hjoin] at hs
      rw [if_pos rfl, Disk.start_of_isName hname hs]
    · rw [if_neg hempty]
      exact target?_eq_some_iff.mpr ⟨origin, Disk.start_of_start_join hempty hs, hfront⟩
  refine ⟨folder, hfolder, ?_⟩
  cases hlast with
  | dot => exact absurd rfl hdots.1
  | dots => exact absurd rfl hdots.2
  | name entered dots size none tail =>
      cases tail
      exact ⟨(enter_ok_iff.mp entered).1, fun _ => rfl⟩
  | link entered dots size some start tail =>
      refine ⟨(enter_ok_iff.mp entered).1, fun hnone => ?_⟩
      rw [hnone] at some
      cases some

-- A file that is named without a slash at the end.
theorem locate_ok_iff {tree : FileTree} (hslash : Pathname.endsInSlash path = false) :
    v.locate path = .ok (target, tree) ↔
      v.target? path = some target ∧ v.disk.root.find? target = some tree := by
  rw [locate, Except.bind_ok_iff]
  simp only [resolve_ok_iff, hslash, Bool.false_and, Bool.false_eq_true, if_false]
  constructor
  · rintro ⟨other, ht, h⟩
    split at h
    next found hf =>
      cases h
      exact ⟨ht, hf⟩
    next => cases h
  · rintro ⟨ht, hf⟩
    refine ⟨target, ht, ?_⟩
    rw [hf]
    rfl

theorem exists?_iff (hslash : Pathname.endsInSlash path = false) :
    v.exists? path = true ↔ ∃ target, v.target? path = some target ∧
      (v.entryAt target).isSome := by
  unfold exists?
  constructor
  · intro h
    cases hl : v.locate path with
    | error cause => simp [hl, Except.isOk, Except.toBool] at h
    | ok found =>
        obtain ⟨ht, hf⟩ := (locate_ok_iff hslash).mp hl
        exact ⟨found.1, ht, by simp [entryAt, FileTree.entryAt, hf]⟩
  · rintro ⟨target, ht, hsome⟩
    obtain ⟨tree, hf⟩ : ∃ tree, v.disk.root.find? target = some tree := by
      simpa [entryAt, FileTree.entryAt, Option.isSome_iff_exists] using hsome
    have hl := (locate_ok_iff hslash).mpr ⟨ht, hf⟩
    simp [hl, Except.isOk, Except.toBool]

theorem entryAt_put (hdirectory : v.entryAt target.dropLast = some .directory)
    (hd : v.entryAt target ≠ some .directory) (content : ByteArray) (location : Location) :
    (v.put target content).entryAt location =
      if location = target then some (.file content) else v.entryAt location := by
  have hne : target ≠ [] := by
    rintro rfl
    exact hd hdirectory
  obtain ⟨folder, name, rfl⟩ : ∃ folder name, target = folder ++ [name] :=
    ⟨_, _, (List.dropLast_concat_getLast hne).symm⟩
  rw [List.dropLast_concat] at hdirectory
  obtain ⟨entries, hf⟩ := FileTree.entryAt_eq_directory_iff.mp hdirectory
  refine FileTree.entryAt_put hf ?_ (fun _ _ => rfl) location
  rwa [← FileTree.entryAt_append_singleton hf]

-- What a run leaves as it is: where paths lead, and all that is there, if not what is in it.
structure Kept (v w : Volume) : Prop where
  here : w.disk.here = v.disk.here
  links : w.links = v.links
  closed : w.closed = v.closed
  directory_iff : ∀ location,
    w.entryAt location = some .directory ↔ v.entryAt location = some .directory
  isSome : ∀ location, (v.entryAt location).isSome → (w.entryAt location).isSome

namespace Kept

theorem refl (v : Volume) : Kept v v := ⟨rfl, rfl, rfl, fun _ => Iff.rfl, fun _ h => h⟩

theorem trans {u : Volume} (h : Kept u v) (h' : Kept v w) : Kept u w where
  here := h'.here.trans h.here
  links := h'.links.trans h.links
  closed := h'.closed.trans h.closed
  directory_iff := fun location => (h'.directory_iff location).trans (h.directory_iff location)
  isSome := fun location hsome => h'.isSome location (h.isSome location hsome)

theorem enter_iff (h : Kept v w) : w.enter location = .ok () ↔ v.enter location = .ok () := by
  simp only [enter_ok_iff, h.directory_iff, h.closed]

theorem leads (h : Kept v w) (hleads : Leads v count location names place) :
    Leads w count location names place := by
  induction hleads with
  | here count location => exact .here count location
  | dot entered tail ih => exact .dot (h.enter_iff.mpr entered) ih
  | dots entered tail ih => exact .dots (h.enter_iff.mpr entered) ih
  | name entered dots size none tail ih =>
      exact .name (h.enter_iff.mpr entered) dots size (h.links ▸ none) ih
  | link entered dots size some start tail ih =>
      exact .link (h.enter_iff.mpr entered) dots size (h.links ▸ some) start ih

theorem leads_back (h : Kept v w) (hleads : Leads w count location names place) :
    Leads v count location names place := by
  induction hleads with
  | here count location => exact .here count location
  | dot entered tail ih => exact .dot (h.enter_iff.mp entered) ih
  | dots entered tail ih => exact .dots (h.enter_iff.mp entered) ih
  | name entered dots size none tail ih =>
      exact .name (h.enter_iff.mp entered) dots size (h.links ▸ none) ih
  | link entered dots size some start tail ih =>
      exact .link (h.enter_iff.mp entered) dots size (h.links ▸ some) start ih

theorem target? (h : Kept v w) (path : String) : w.target? path = v.target? path := by
  have hstart : w.disk.start path = v.disk.start path := by
    simp only [Disk.start, h.here]
  ext target
  simp only [target?_eq_some_iff, hstart]
  exact exists_congr fun origin => and_congr_right' ⟨h.leads_back, h.leads⟩

end Kept

theorem kept_put (hdirectory : v.entryAt target.dropLast = some .directory)
    (hd : v.entryAt target ≠ some .directory) (content : ByteArray) :
    Kept v (v.put target content) where
  here := rfl
  links := rfl
  closed := rfl
  directory_iff := by
    intro location
    rw [entryAt_put hdirectory hd]
    split
    next heq => simp [heq, hd]
    next => exact Iff.rfl
  isSome := by
    intro location hsome
    rw [entryAt_put hdirectory hd]
    split
    · rfl
    · exact hsome

theorem place_ok_iff :
    v.place path = .ok target ↔
      Pathname.endsInSlash path = false ∧ v.target? path = some target ∧
        v.entryAt target ≠ some .directory ∧ v.closed.lookup target = none := by
  unfold place
  cases hslash : Pathname.endsInSlash path with
  | true =>
      simp only [if_true, Bool.true_eq_false, false_and, iff_false]
      intro h
      simp only [Except.bind_ok_iff] at h
      obtain ⟨_, _, _, _, _, _, hthrow⟩ := h
      cases hthrow
  | false =>
      simp only [Bool.false_eq_true, if_false, true_and]
      rw [Except.bind_ok_iff]
      simp only [resolve_ok_iff]
      constructor
      · rintro ⟨other, ht, h⟩
        split at h
        next => cases h
        next => cases h
        next hclosed hnot =>
          cases h
          refine ⟨ht, fun hd => ?_, hclosed⟩
          obtain ⟨entries, hf⟩ := FileTree.entryAt_eq_directory_iff.mp hd
          exact hnot entries hf
      · rintro ⟨ht, hd, hclosed⟩
        refine ⟨target, ht, ?_⟩
        split
        next entries hf => exact absurd (FileTree.entryAt_eq_directory_iff.mpr ⟨entries, hf⟩) hd
        next cause hc _ =>
          rw [hclosed] at hc
          cases hc
        next => rfl

-- The faults that are left after a write whose path is in order.
def later (v : Volume) : Volume := { v with faults := v.faults.tail }

theorem write_ok_iff :
    v.write path content = (.ok (), after) ↔
      ∃ target, v.place path = .ok target ∧ v.faults.head?.join = none ∧
        after = v.later.put target content := by
  unfold write
  cases hp : v.place path with
  | error cause => simp
  | ok target =>
      simp only [Except.ok.injEq, exists_eq_left']
      split
      next hnone => simp [hnone, later, eq_comm]
      next cause hsome => simp [hsome]
      next count cause hsome => simp [hsome]

-- A write that fails changes nothing, or leaves the first part of the file.
theorem write_error_iff :
    v.write path content = (.error cause, after) ↔
      (v.place path = .error cause ∧ after = v) ∨
        ∃ target, v.place path = .ok target ∧
          ((v.faults.head?.join = some (.refused cause) ∧ after = v.later) ∨
            ∃ count, v.faults.head?.join = some (.brokenOff count cause) ∧
              after = v.later.put target (content.extract 0 count)) := by
  unfold write
  cases hp : v.place path with
  | error other => simp [eq_comm]
  | ok target =>
      simp only [reduceCtorEq, false_and, false_or, Except.ok.injEq, exists_eq_left']
      split
      next hnone => simp [hnone]
      next other hsome => simp [hsome, later, eq_comm]
      next count other hsome =>
        simp only [hsome, Option.some.injEq, reduceCtorEq, false_and, false_or, Fault.brokenOff.injEq,
          later, Prod.mk.injEq, Except.error.injEq]
        constructor
        · rintro ⟨rfl, rfl⟩
          exact ⟨count, ⟨rfl, rfl⟩, rfl⟩
        · rintro ⟨_, ⟨rfl, rfl⟩, rfl⟩
          exact ⟨rfl, rfl⟩

theorem kept_later (v : Volume) : Kept v v.later :=
  ⟨rfl, rfl, rfl, fun _ => Iff.rfl, fun _ h => h⟩

-- Whatever becomes of a write, it is of one file.
theorem kept_of_write {result : Except Cause Unit} (hnames : Pathname.NamesFile path)
    (h : v.write path content = (result, after)) : Kept v after := by
  have hput : ∀ {target}, v.place path = .ok target → ∀ content,
      Kept v (v.later.put target content) := by
    intro target hp content
    obtain ⟨_, ht, hd, _⟩ := place_ok_iff.mp hp
    have hdirectory := directory_of_target? hnames ht
    exact (kept_later v).trans (kept_put (v := v.later) hdirectory hd content)
  cases result with
  | ok =>
      obtain ⟨target, hp, _, rfl⟩ := write_ok_iff.mp h
      exact hput hp _
  | error cause =>
      obtain ⟨_, rfl⟩ | ⟨target, hp, ⟨_, rfl⟩ | ⟨count, _, rfl⟩⟩ := write_error_iff.mp h
      · exact .refl _
      · exact kept_later v
      · exact hput hp _

-- A slash at the end of its path keeps a file from being found.
theorem endsInSlash_of_locate (h : v.locate path = .ok (target, .file content)) :
    Pathname.endsInSlash path = false := by
  rw [locate, Except.bind_ok_iff] at h
  obtain ⟨_, _, h⟩ := h
  split at h
  next tree hf =>
    split at h
    next => cases h
    next hslash =>
      cases h
      simpa [FileTree.isDirectory] using hslash
  next => cases h

theorem readText_ok_iff :
    v.readText path = .ok text ↔
      Pathname.endsInSlash path = false ∧ ∃ target content, v.target? path = some target ∧
        v.entryAt target = some (.file content) ∧ v.closed.lookup target = none ∧
        String.fromUTF8? content = some text := by
  rw [readText, Except.bind_ok_iff]
  constructor
  · rintro ⟨⟨target, tree⟩, hl, h⟩
    cases tree with
    | directory entries => cases h
    | file content =>
        have hslash := endsInSlash_of_locate hl
        obtain ⟨ht, hf⟩ := (locate_ok_iff hslash).mp hl
        refine ⟨hslash, target, content, ht, FileTree.entryAt_eq_file_iff.mpr hf, ?_⟩
        dsimp only at h
        split at h
        · cases h
        next hclosed =>
          split at h
          next found hfound =>
            cases h
            exact ⟨hclosed, hfound⟩
          · cases h
  · rintro ⟨hslash, target, content, ht, he, hclosed, htext⟩
    refine ⟨_, (locate_ok_iff hslash).mpr ⟨ht, FileTree.entryAt_eq_file_iff.mp he⟩, ?_⟩
    simp only [hclosed, htext]
    rfl

theorem Kept.readText_iff (h : Kept v w)
    (hsame : ∀ target, v.target? path = some target → w.entryAt target = v.entryAt target) :
    w.readText path = .ok text ↔ v.readText path = .ok text := by
  simp only [readText_ok_iff, h.target?, h.closed]
  refine and_congr_right fun _ => exists_congr fun target => exists_congr fun content => ?_
  refine and_congr_right fun ht => ?_
  rw [hsame target ht]

-- Without links, a path leads to a place of its own name, if not to a directory.
theorem getLast?_of_target? (hlinks : v.links = []) (hne : Pathname.names path ≠ [])
    (ht : v.target? path = some target) (hd : v.entryAt target ≠ some .directory) :
    target.getLast? = (Pathname.names path).getLast? := by
  obtain ⟨origin, _, hleads⟩ := target?_eq_some_iff.mp ht
  exact hleads.getLast?_eq hlinks hne hd

end StepCommand.Volume
