import Mathlib.Data.List.Nodup
import StepCommand.Proofs.Artifact.Settled

namespace StepCommand.Artifact

variable {disk after : Disk} {a : Artifact} {artifacts earlier later : List Artifact}
  {outcomes : List Outcome} {directory path : String}

-- Each artifact ends up, and is reported, as if nothing else had been written.
structure Alone (disk after : Disk) (artifacts : List Artifact) (outcomes : List Outcome) :
    Prop where
  reported : outcomes = artifacts.map (Artifact.reported disk [])
  atPath : ∀ a ∈ artifacts, after.entryOf a.path = a.leaves (disk.entryOf a.path)

theorem path_notMem_of_nodup (h : ((earlier ++ a :: later).map Artifact.path).Nodup) :
    a.path ∉ earlier.map Artifact.path ∧ a.path ∉ later.map Artifact.path := by
  rw [List.map_append, List.map_cons] at h
  have hnotMem := (List.nodup_cons.mp (List.nodup_middle.mp h)).1
  rwa [List.mem_append, not_or] at hnotMem

theorem reported_of_notMem (disk : Disk) (h : a.path ∉ earlier.map Artifact.path) :
    a.reported disk earlier = a.reported disk [] := by
  have hnone : ¬ ∃ b ∈ earlier, b.path = a.path := fun ⟨b, hb, hp⟩ =>
    h (List.mem_map.mpr ⟨b, hb, hp⟩)
  simp [reported, hnone]

theorem filter_path_of_notMem (h : path ∉ artifacts.map Artifact.path) :
    (artifacts.filter fun b => b.path = path) = [] := by
  refine List.filter_eq_nil_iff.mpr fun b hb hp => h (List.mem_map.mpr ⟨b, hb, ?_⟩)
  simpa using hp

theorem alone_of_nodup (h : Written disk artifacts outcomes after)
    (hwithin : ∀ a ∈ artifacts, a.Within directory)
    (hnodup : (artifacts.map Artifact.path).Nodup) : Alone disk after artifacts outcomes := by
  constructor
  · have hlength : outcomes.length = artifacts.length := by
      simpa using congrArg List.length h.paths
    refine List.ext_getElem (by simpa using hlength) fun i hi hmap => ?_
    have hi' : i < artifacts.length := hlength ▸ hi
    have hsplit : artifacts = artifacts.take i ++ artifacts[i] :: artifacts.drop (i + 1) := by
      simp
    have hnotMem := (path_notMem_of_nodup (hsplit ▸ hnodup)).1
    have hreported := (hsplit ▸ h).reported (hsplit ▸ hwithin)
    rw [reported_of_notMem disk hnotMem, List.length_take_of_le (Nat.le_of_lt hi'),
      List.getElem?_eq_getElem hi, Option.some.injEq] at hreported
    rw [hreported, List.getElem_map]
  · intro a ha
    have hfilter : (artifacts.filter fun b => b.path = a.path) = [a] := by
      obtain ⟨earlier, later, rfl⟩ := List.append_of_mem ha
      obtain ⟨hearlier, hlater⟩ := path_notMem_of_nodup hnodup
      simp [List.filter_append, filter_path_of_notMem hearlier, filter_path_of_notMem hlater]
    rw [h.entryOf_eq hwithin ha, hfilter, settled_cons, settled_nil]

end StepCommand.Artifact
