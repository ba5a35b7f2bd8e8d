import StepCommand.Proofs.Artifact.Again
import StepCommand.Proofs.Generator.Reading

namespace StepCommand.Generator

open Artifact (Written)
open Discovery (metadataFiles)
open Pathname (EndsInGo)

variable {g : Generator} {disk mid after : Disk} {failure : Failure} {r : Report}
  {paths : List String} {directory path : String} {xs : List Artifact} {as : List Assembly}
  {outcomes : List Outcome}

-- The same files are found, although the first run may have written among them.
theorem metadataFiles_of_written (h : Written disk xs outcomes after) (hx : ∀ x ∈ xs, g.IsSource x)
    (hm : metadataFiles disk directory = .ok paths) :
    metadataFiles after directory = .ok paths :=
  h.preserves (P := fun first second => metadataFiles first directory = .ok paths →
      metadataFiles second directory = .ok paths)
    (fun _ h => h) (fun h₁ h₂ h => h₂ (h₁ h))
    (fun hmem ht hd => Discovery.metadataFiles_put ht hd (hx _ hmem).last _) hm

-- A run reads the same files again, from the disk that it has left.
theorem processed_again (hp : ∀ path ∈ paths, ¬ EndsInGo path)
    (hread : List.Forall₂ (fun path a => g.readAssembly path disk = .ok a) paths as)
    (h : Written disk xs outcomes after) (hx : ∀ x ∈ xs, g.IsSource x) {again : List Outcome}
    (hw : Written after (g.allSources as) again mid) : Processed g after paths as again mid :=
  (processed_iff hp).mpr ⟨(forall₂_readAssembly_iff h hx hp).mpr hread, hw⟩

theorem fails_again (hp : ∀ path ∈ paths, ¬ EndsInGo path) (hpath : ¬ EndsInGo path)
    (hprocessed : Processed g disk paths as outcomes mid) (h : g.Fails path mid failure after) :
    ∃ again other, Processed g after paths as again other ∧ g.Fails path other failure after := by
  obtain ⟨hread, hsources⟩ := (processed_iff hp).mp hprocessed
  obtain ⟨part, _, hw, hx, hhalts⟩ := halts_of_fails hpath hread hsources h
  have hhalts' : Halts g path after after part failure := by
    cases hhalts with
    | read hfail => exact .read hfail
    | write ha hpart hwrite => exact .write ((readAssembly_iff hw hx hpath).mpr ha) hpart hwrite
  obtain ⟨again, other, hagain, hother⟩ := fails_of_halts hpath
    (hw.again (namesFile_of_isSource hx)) (isSource_of_mem_allSources hread) hhalts'
  exact ⟨again, other, processed_again hp hread hw hx hagain, hother⟩

theorem process_again_of_error (hp : ∀ path ∈ paths, ¬ EndsInGo path)
    (h : (g.process paths).on disk = (.error failure, after)) :
    (g.process paths).on after = (.error failure, after) := by
  rw [process_on_error_iff] at h ⊢
  obtain ⟨front, path, rest, as, outcomes, mid, rfl, hprocessed, hfails⟩ |
    ⟨as, outcomes, hprocessed, hlist⟩ := h
  · obtain ⟨again, other, hagain, hother⟩ :=
      fails_again (fun other hmem => hp other (List.mem_append_left _ hmem))
        (hp path (List.mem_append_right _ List.mem_cons_self)) hprocessed hfails
    exact .inl ⟨front, path, rest, as, again, other, rfl, hagain, hother⟩
  · obtain ⟨hread, hsources⟩ := (processed_iff hp).mp hprocessed
    have hx := isSource_of_mem_allSources hread
    exact .inr ⟨as, _, processed_again hp hread hsources hx
      (hsources.again (namesFile_of_isSource hx)), hlist⟩

-- Whatever becomes of a run, it has only written sources.
theorem written_of_error (hp : ∀ path ∈ paths, ¬ EndsInGo path)
    (h : (g.process paths).on disk = (.error failure, after)) :
    ∃ xs outcomes, Written disk xs outcomes after ∧ ∀ x ∈ xs, g.IsSource x := by
  obtain ⟨front, path, rest, as, outcomes, mid, rfl, hprocessed, hfails⟩ |
    ⟨as, outcomes, hprocessed, _⟩ := process_on_error_iff.mp h
  · obtain ⟨hread, hsources⟩ :=
      (processed_iff fun other hmem => hp other (List.mem_append_left _ hmem)).mp hprocessed
    obtain ⟨part, second, hw, hx, _⟩ := halts_of_fails
      (hp path (List.mem_append_right _ List.mem_cons_self)) hread hsources hfails
    exact ⟨_, second, hw, hx⟩
  · obtain ⟨hread, hsources⟩ := (processed_iff hp).mp hprocessed
    exact ⟨_, outcomes, hsources, isSource_of_mem_allSources hread⟩

-- What is reported when all files are there already.
def outcomesAgain (g : Generator) (names : List String) : List Outcome :=
  (names.flatMap fun name => SourceFile.all.map fun file =>
    ⟨g.path (file.fileName name), if file.policy = .overwrite then .written else .kept⟩) ++
    [⟨g.path Source.Registry.fileName, .written⟩]

theorem map_again_allSources (g : Generator) (as : List Assembly) :
    (g.allSources as).map Artifact.again ++ [(g.list (as.map (·.step.name))).again] =
      g.outcomesAgain (as.map (·.step.name)) := by
  simp only [outcomesAgain, allSources, List.map_flatMap, List.flatMap_map]
  rfl

theorem process_again_of_ok (hp : ∀ path ∈ paths, ¬ EndsInGo path)
    (h : (g.process paths).on disk = (.ok r, after)) :
    (g.process paths).on after = (.ok ⟨r.steps, g.outcomesAgain r.steps⟩, after) ∧
      (g.outcomesAgain r.steps).map Outcome.path = r.outcomes.map Outcome.path := by
  obtain ⟨as, hread, hsteps, hw, hx⟩ := written_of_process hp h
  have hagain := hw.again (namesFile_of_isSource hx)
  have houtcomes := map_again_allSources g as
  constructor
  · obtain ⟨first, second, mid, heq, hfirst, hsecond⟩ := hagain.of_append
    cases hsecond with
    | @cons _ _ _ _ _ status _ head tail =>
        cases tail
        rw [List.map_append, List.map_singleton, houtcomes] at heq
        rw [hsteps, heq]
        exact process_ok_iff.mpr ⟨as, first, mid, status, processed_again hp hread hw hx hfirst,
          head, rfl⟩
  · rw [hsteps, ← houtcomes, hw.paths, ← hagain.paths, List.map_append, List.map_append,
      List.map_append, List.map_singleton, List.map_singleton, List.map_singleton]

end StepCommand.Generator
