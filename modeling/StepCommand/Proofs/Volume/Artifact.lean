import StepCommand.Proofs.Artifact.Settled
import StepCommand.Proofs.Volume.File

namespace StepCommand.Artifact

open FileTree (Entry)
open Volume (Kept)

variable {v mid after : Volume} {a : Artifact} {as : List Artifact} {outcomes : List Outcome}
  {status : Status} {failure : Failure} {location target : Location}

-- A write is of the file that a path leads to.
theorem kept_of_write {result : Except Failure Status} (hnames : Pathname.NamesFile a.path)
    (h : a.write v = (result, after)) : Kept v after := by
  cases result with
  | ok status =>
      obtain ⟨_, _, rfl⟩ | ⟨_, _, hwrite⟩ := write_eq_ok_iff.mp h
      · exact .refl _
      · exact Volume.kept_of_write hnames hwrite
  | error failure =>
      obtain ⟨_, cause, hwrite, _⟩ := write_eq_error_iff.mp h
      exact Volume.kept_of_write hnames hwrite

-- An artifact that may not replace anything is tried only where nothing is.
theorem entryAt_of_isKept (hnames : Pathname.NamesFile a.path) (h : a.isKept v = false)
    (ht : v.target? a.path = some target) (hpolicy : a.policy = .createOnly) :
    v.entryAt target = none := by
  cases he : v.entryAt target with
  | none => rfl
  | some entry =>
      have hexists := (Volume.exists?_iff hnames.slash).mpr ⟨target, ht, by simp [he]⟩
      rw [isKept_eq_true_iff.mpr ⟨hpolicy, hexists⟩] at h
      cases h

theorem entryAt_of_write (hnames : Pathname.NamesFile a.path)
    (h : a.write v = (.ok status, after)) (location : Location) :
    after.entryAt location =
      if v.target? a.path = some location then a.leaves (v.entryAt location)
      else v.entryAt location := by
  obtain ⟨hkept, _, rfl⟩ | ⟨hkept, _, hwrite⟩ := write_eq_ok_iff.mp h
  · obtain ⟨hpolicy, hexists⟩ := isKept_eq_true_iff.mp hkept
    obtain ⟨target, ht, hsome⟩ := (Volume.exists?_iff hnames.slash).mp hexists
    obtain ⟨entry, he⟩ := Option.isSome_iff_exists.mp hsome
    split
    next hl =>
      cases ht.symm.trans hl
      simp [leaves, hpolicy, he]
    next => rfl
  · obtain ⟨target, hplace, _, rfl⟩ := Volume.write_ok_iff.mp hwrite
    obtain ⟨_, ht, hd, _⟩ := Volume.place_ok_iff.mp hplace
    have hdirectory := Volume.directory_of_target? hnames ht
    rw [Volume.entryAt_put (v := v.later) hdirectory hd]
    simp only [ht, Option.some.injEq, eq_comm]
    split
    next heq =>
      subst heq
      unfold leaves
      cases hp : a.policy with
      | overwrite => simp
      | createOnly => simp [entryAt_of_isKept hnames hkept ht hp]
    next => rfl

-- What is left of an artifact that is not written: nothing, or its file with the bytes that come
-- first. A file is then new or emptied before, and one that may not be replaced is new.
inductive Left (a : Artifact) (v after : Volume) : Prop where
  | nothing (same : ∀ location, after.entryAt location = v.entryAt location)
  | brokenOff (target : Location) (count : Nat) (path : v.target? a.path = some target)
      (replaced : v.entryAt target ≠ some .directory)
      (made : a.policy = .createOnly → v.entryAt target = none)
      (first : ∀ location, after.entryAt location =
        if location = target then some (.file (a.bytes.extract 0 count)) else v.entryAt location)

theorem left_of_write (hnames : Pathname.NamesFile a.path)
    (h : a.write v = (.error failure, after)) : a.Left v after := by
  obtain ⟨hkept, cause, hwrite, _⟩ := write_eq_error_iff.mp h
  obtain ⟨_, rfl⟩ | ⟨target, hplace, ⟨_, rfl⟩ | ⟨count, _, rfl⟩⟩ := Volume.write_error_iff.mp hwrite
  · exact .nothing fun _ => rfl
  · exact .nothing fun _ => rfl
  · obtain ⟨_, ht, hd, _⟩ := Volume.place_ok_iff.mp hplace
    have hdirectory := Volume.directory_of_target? hnames ht
    exact .brokenOff target count ht hd (entryAt_of_isKept hnames hkept ht) fun location =>
      Volume.entryAt_put (v := v.later) hdirectory hd _ location

namespace Written

theorem kept (hnames : ∀ a ∈ as, Pathname.NamesFile a.path) (h : Written v as outcomes after) :
    Kept v after :=
  h.relates (P := Kept) .refl .trans fun ha hw => kept_of_write (hnames _ ha) hw

theorem settled_eq (hnames : ∀ a ∈ as, Pathname.NamesFile a.path)
    (h : Written v as outcomes after) (location : Location) :
    after.entryAt location = settled (v.entryAt location)
      (as.filter fun a => v.target? a.path = some location) := by
  refine h.settled_of_step (P := Kept v) (f := fun mid => mid.entryAt location) ?_ (.refl v)
  intro a status first second ha hfirst hw
  refine ⟨hfirst.trans (kept_of_write (hnames a ha) hw), ?_⟩
  simp only [entryAt_of_write (hnames a ha) hw, hfirst.target?, decide_eq_true_eq]

theorem exists_of_ne (hnames : ∀ a ∈ as, Pathname.NamesFile a.path)
    (h : Written v as outcomes after) (hne : after.entryAt location ≠ v.entryAt location) :
    ∃ a ∈ as, v.target? a.path = some location ∧
      (a.policy = .overwrite ∨ v.entryAt location = none) := by
  rw [h.settled_eq hnames] at hne
  obtain ⟨a, ha, hpolicy⟩ := exists_of_settled_ne hne
  obtain ⟨hmem, ht⟩ := List.mem_filter.mp ha
  exact ⟨a, hmem, by simpa using ht, hpolicy⟩

end Written

end StepCommand.Artifact
