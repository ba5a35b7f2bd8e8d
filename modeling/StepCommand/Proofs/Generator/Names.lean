import Mathlib.Data.List.Infix
import Mathlib.Data.List.Nodup
import Mathlib.Data.List.Pairwise
import StepCommand.Proofs.Artifact.Alone
import StepCommand.Proofs.Generator.Reading

namespace StepCommand

variable {file other : SourceFile} {s t : String} {names : List String}

namespace SourceFile

-- What the files of a step may have between the name of the step and `.go`.
def endings : List String := ["_test", "_generated", "_generated_test"]

theorem eq_nil_or_mem_endings (hf : file ∈ all) (ho : other ∈ all) {rest : List Char}
    (h : file.suffix.toList = rest ++ other.suffix.toList) :
    rest = [] ∨ String.ofList rest ∈ endings := by
  have hall : ∀ u ∈ all.map suffix, ∀ v ∈ all.map suffix, ∀ rest ∈ u.toList.inits,
      u.toList = rest ++ v.toList → rest = [] ∨ String.ofList rest ∈ endings := by
    decide +kernel
  have hrest : rest ∈ file.suffix.toList.inits := (List.mem_inits _ _).mpr ⟨_, h.symm⟩
  exact hall _ (List.mem_map_of_mem hf) _ (List.mem_map_of_mem ho) rest hrest h

-- Files of two steps have one name only if the name of one step goes on from that of the other.
theorem fileName_eq (hf : file ∈ all) (ho : other ∈ all)
    (h : file.fileName s = other.fileName t) :
    s = t ∨ ∃ ending ∈ endings, s = t ++ ending ∨ t = s ++ ending := by
  have hlist : s.toList ++ file.suffix.toList = t.toList ++ other.suffix.toList := by
    simpa only [fileName, String.toList_append] using congrArg String.toList h
  obtain ⟨rest, ht, hrest⟩ | ⟨rest, hs, hrest⟩ := List.append_eq_append_iff.mp hlist
  · obtain rfl | hmem := eq_nil_or_mem_endings hf ho hrest
    · exact .inl (String.toList_inj.mp (by simpa using ht.symm))
    · exact .inr ⟨_, hmem, .inr (String.toList_inj.mp (by simpa using ht))⟩
  · obtain rfl | hmem := eq_nil_or_mem_endings ho hf hrest
    · exact .inl (String.toList_inj.mp (by simpa using hs))
    · exact .inr ⟨_, hmem, .inl (String.toList_inj.mp (by simpa using hs))⟩

-- The implementation of a step is named like a generated file of a step with a shorter name.
theorem exists_fileName_eq {ending : String} (h : ending ∈ endings) (t : String) :
    ∃ file ∈ all, file.fileName t = implementation.fileName (t ++ ending) := by
  simp only [endings, List.mem_cons, List.not_mem_nil, or_false] at h
  obtain rfl | rfl | rfl := h
  · exact ⟨implementationTest, by simp [all], by simp [fileName, implementation, implementationTest,
      String.append_assoc]⟩
  · exact ⟨command, by simp [all], by simp [fileName, implementation, command,
      String.append_assoc]⟩
  · exact ⟨commandTest, by simp [all], by simp [fileName, implementation, commandTest,
      String.append_assoc]⟩

theorem ne_append_of_mem_endings {ending : String} (h : ending ∈ endings) (t : String) :
    t ≠ t ++ ending := by
  have hne : ∀ ending ∈ endings, ending ≠ "" := by decide
  intro heq
  exact hne ending h (by simpa using heq.symm)

theorem fileName_eq_registry (hf : file ∈ all) (h : file.fileName s = Source.Registry.fileName) :
    s = "metadata" ∨ s = "metadata_generated" := by
  have hall : ∀ u ∈ all.map suffix, ∀ name ∈ Source.Registry.fileName.toList.inits,
      name ++ u.toList = Source.Registry.fileName.toList →
        String.ofList name = "metadata" ∨ String.ofList name = "metadata_generated" := by
    decide +kernel
  have hlist : s.toList ++ file.suffix.toList = Source.Registry.fileName.toList := by
    simpa only [fileName, String.toList_append] using congrArg String.toList h
  have hname : s.toList ∈ Source.Registry.fileName.toList.inits :=
    (List.mem_inits _ _).mpr ⟨_, hlist⟩
  simpa using hall _ (List.mem_map_of_mem hf) s.toList hname hlist

theorem nodup_fileNames (s : String) : (all.map fun file => file.fileName s).Nodup := by
  have hsuffix : (all.map suffix).Nodup := by decide
  have happend : Function.Injective fun suffix : String => s ++ suffix := fun u v h => by
    simpa using h
  have h := hsuffix.map happend
  rw [List.map_map] at h
  exact h

end SourceFile

namespace Generator

open Artifact (Alone)

def fileNames (steps : List String) : List String :=
  steps.flatMap (fun s => SourceFile.all.map fun file => file.fileName s) ++
    [Source.Registry.fileName]

-- Steps whose files keep out of each other's way, and out of the way of the list of the steps.
structure Apart (steps : List String) : Prop where
  nodup : steps.Nodup
  ending : ∀ s ∈ steps, ∀ t ∈ steps, ∀ ending ∈ SourceFile.endings, s ≠ t ++ ending
  registry : "metadata" ∉ steps ∧ "metadata_generated" ∉ steps

instance (steps : List String) : Decidable (Apart steps) :=
  decidable_of_iff (steps.Nodup ∧
    (∀ s ∈ steps, ∀ t ∈ steps, ∀ ending ∈ SourceFile.endings, s ≠ t ++ ending) ∧
    "metadata" ∉ steps ∧ "metadata_generated" ∉ steps)
    ⟨fun ⟨nodup, ending, registry⟩ => ⟨nodup, ending, registry⟩,
      fun h => ⟨h.nodup, h.ending, h.registry⟩⟩

theorem disjoint_of_apart {steps : List String} (h : Apart steps) (hs : s ∈ steps) (ht : t ∈ steps)
    (hne : s ≠ t) :
    (SourceFile.all.map fun file => file.fileName s).Disjoint
      (SourceFile.all.map fun file => file.fileName t) := by
  intro name hname hother
  obtain ⟨file, hf, rfl⟩ := List.mem_map.mp hname
  obtain ⟨other, ho, heq⟩ := List.mem_map.mp hother
  obtain rfl | ⟨ending, he, rfl | rfl⟩ := SourceFile.fileName_eq ho hf heq
  · exact hne rfl
  · exact h.ending _ ht _ hs _ he rfl
  · exact h.ending _ hs _ ht _ he rfl

theorem nodup_fileNames_of_apart {steps : List String} (h : Apart steps) :
    (fileNames steps).Nodup := by
  refine List.Nodup.append ?_ (List.nodup_singleton _) ?_
  · rw [List.nodup_flatMap]
    exact ⟨fun s _ => SourceFile.nodup_fileNames s,
      h.nodup.pairwise_of_forall_ne fun s hs t ht hne => disjoint_of_apart h hs ht hne⟩
  · intro name hname hregistry
    obtain ⟨s, hs, hfile⟩ := List.mem_flatMap.mp hname
    obtain ⟨file, hf, rfl⟩ := List.mem_map.mp hfile
    obtain rfl | rfl := SourceFile.fileName_eq_registry hf (List.mem_singleton.mp hregistry)
    · exact h.registry.1 hs
    · exact h.registry.2 hs

theorem apart_of_nodup_fileNames {steps : List String} (h : (fileNames steps).Nodup) :
    Apart steps := by
  obtain ⟨hsources, _, hlist⟩ := List.nodup_append'.mp h
  obtain ⟨_, hpairs⟩ := List.nodup_flatMap.mp hsources
  have hne : steps.Nodup := hpairs.imp fun {s t} hdisjoint heq => by
    subst heq
    have hmem : SourceFile.command.fileName s ∈
        SourceFile.all.map fun file => file.fileName s :=
      List.mem_map.mpr ⟨SourceFile.command, by simp [SourceFile.all], rfl⟩
    exact hdisjoint hmem hmem
  have hregistry : ∀ s ∈ steps, ∀ file ∈ SourceFile.all,
      file.fileName s ≠ Source.Registry.fileName := by
    intro s hs file hf heq
    refine hlist (List.mem_flatMap.mpr ⟨s, hs, List.mem_map.mpr ⟨file, hf, rfl⟩⟩) ?_
    exact List.mem_singleton.mpr heq
  refine ⟨hne, ?_, ?_, ?_⟩
  · intro s hs t ht ending he heq
    subst heq
    obtain ⟨file, hf, heq⟩ := SourceFile.exists_fileName_eq he t
    have hsymm : Std.Symm (Function.onFun List.Disjoint fun s =>
        SourceFile.all.map fun file => file.fileName s) :=
      ⟨fun _ _ h _ hleft hright => h hright hleft⟩
    have hdisjoint := hpairs.forall ht hs (SourceFile.ne_append_of_mem_endings he t)
    refine hdisjoint (List.mem_map.mpr ⟨file, hf, heq⟩) (List.mem_map.mpr ⟨_, ?_, rfl⟩)
    simp [SourceFile.all]
  · exact fun hs => hregistry _ hs SourceFile.command (by simp [SourceFile.all]) rfl
  · exact fun hs => hregistry _ hs SourceFile.implementation (by simp [SourceFile.all]) rfl

variable {g : Generator} {disk after : Disk} {paths : List String} {as : List Assembly}
  {artifacts : List Artifact} {outcomes : List Outcome} {r : Report}

theorem path_injective (g : Generator) : Function.Injective g.path := by
  intro name other h
  unfold path Pathname.join at h
  split at h
  · exact String.append_right_inj _ |>.mp h
  · exact String.append_right_inj _ |>.mp h

theorem map_path_sources (g : Generator) (as : List Assembly) :
    (g.allSources as ++ [g.list (as.map (·.step.name))]).map Artifact.path =
      (fileNames (as.map (·.step.name))).map g.path := by
  simp [allSources, sources, source, list, fileNames, List.flatMap_map, List.map_flatMap,
    Function.comp_def]

-- Steps that keep apart are all that it takes, whatever stands in the target directory.
theorem nodup_paths_iff_apart (h : (g.process paths).on disk = (.ok r, after)) :
    ((r.outcomes.map Outcome.path).Nodup ↔ Apart r.steps) ∧
      ∃ (as : List Assembly) (artifacts : List Artifact), r.steps = as.map (·.step.name) ∧
        artifacts.map .ok =
          (as.flatMap fun a => SourceFile.all.map fun file => g.artifact file a) ++
            [g.registry r.steps] ∧
        r.outcomes.map Outcome.path = artifacts.map Artifact.path ∧
        (Apart r.steps → Alone disk after artifacts r.outcomes) := by
  obtain ⟨as, _, _, _, hsteps, hw, hx⟩ := exists_written_of_process h
  have hnodup : (r.outcomes.map Outcome.path).Nodup ↔ Apart r.steps := by
    rw [hw.paths, map_path_sources, List.nodup_map_iff (path_injective g), hsteps]
    exact ⟨apart_of_nodup_fileNames, nodup_fileNames_of_apart⟩
  refine ⟨hnodup, as, _, hsteps, ?_, hw.paths, fun hapart => ?_⟩
  · rw [List.map_append, map_allSources, List.map_singleton, hsteps, registry_eq]
  · have hwithin := fun x hmem => (hx x hmem).within
    exact Artifact.alone_of_nodup hw hwithin (hw.paths ▸ hnodup.mpr hapart)

theorem nodup_paths_iff_apart_two :
    let g : Generator := ⟨"out", none⟩
    let paths := ["a.yaml", "b.yaml"]
    let disk : Disk := ⟨.directory [
      ("out", .directory [("b.go", .file "package cmd".toUTF8)]),
      ("a.yaml", .file "metadata:\n  name: a\n".toUTF8),
      ("b.yaml", .file "metadata:\n  name: b\n".toUTF8)], []⟩
    ∃ r after artifacts, (g.process paths).on disk = (.ok r, after) ∧
      (r.outcomes.map Outcome.path).Nodup ∧
      r.outcomes.map Outcome.path = artifacts.map Artifact.path ∧
      Alone disk after artifacts r.outcomes := by
  intro g paths disk
  have hrun : (((g.process paths).on disk).1.toOption.any fun r => r.steps = ["a", "b"]) =
      true := by decide +kernel
  obtain ⟨r, after, h, hresult⟩ := RunOn.exists_ok_of_any hrun
  have hsteps : r.steps = ["a", "b"] := of_decide_eq_true hresult
  have hapart : Apart r.steps := by
    rw [hsteps]
    decide +kernel
  obtain ⟨hnodup, _, artifacts, _, _, hpaths, halone⟩ := nodup_paths_iff_apart h
  exact ⟨r, after, artifacts, h, hnodup.mpr hapart, hpaths, halone hapart⟩

-- What is written by hand for one step makes way for the generated source of another, and this in
-- turn passes for the implementation of that step.
theorem nodup_steps_not_nodup_paths :
    let g : Generator := ⟨"out", none⟩
    let paths := ["a.yaml", "b.yaml"]
    let disk : Disk := ⟨.directory [
      ("out", .directory [("a_generated.go", .file "package cmd".toUTF8)]),
      ("a.yaml", .file "metadata:\n  name: a\n".toUTF8),
      ("b.yaml", .file "metadata:\n  name: a_generated\n".toUTF8)], []⟩
    ∃ r after, (g.process paths).on disk = (.ok r, after) ∧ r.steps.Nodup ∧
      ¬ (r.outcomes.map Outcome.path).Nodup ∧
      (r.outcomes.filter fun o => o.path = "out/a_generated.go") =
        [⟨"out/a_generated.go", .written⟩, ⟨"out/a_generated.go", .kept⟩] := by
  intro g paths disk
  have hrun : (((g.process paths).on disk).1.toOption.any fun r =>
      r.steps.Nodup ∧ ¬ (r.outcomes.map Outcome.path).Nodup ∧
        (r.outcomes.filter fun o => o.path = "out/a_generated.go") =
          [⟨"out/a_generated.go", .written⟩, ⟨"out/a_generated.go", .kept⟩]) = true := by
    decide +kernel
  obtain ⟨r, after, h, hresult⟩ := RunOn.exists_ok_of_any hrun
  exact ⟨r, after, h, of_decide_eq_true hresult⟩

end Generator

end StepCommand
