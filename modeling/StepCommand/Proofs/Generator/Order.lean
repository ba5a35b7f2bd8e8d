import Mathlib.Data.List.Perm.Basic
import StepCommand.Proofs.Artifact.Order
import StepCommand.Proofs.Generator.Names
import StepCommand.Proofs.Output
import StepCommand.Proofs.Source.Registry

namespace StepCommand.Generator

open Artifact (Written)
open Discovery (IsMetadataPath)

variable {g : Generator} {disk mid after : Disk} {as : List Assembly} {paths others : List String}
  {steps names : List String} {status : Status} {r : Report}

theorem list_eq (g : Generator) (steps : List String) :
    g.list steps = ⟨g.path Source.Registry.fileName, Source.Registry.text steps, .overwrite⟩ := by
  have hfill : Template.fill Source.Registry.fileName .empty Source.Registry.template
      (Source.Registry.record steps) = .ok (Source.Registry.text steps) :=
    Template.fill_ok_iff.mpr (Source.Registry.render_template steps)
  have hlist : g.registry steps = .ok (g.list steps) := registry_eq g steps
  rw [registry, hfill] at hlist
  exact (Except.ok.inj hlist).symm

theorem status_of_write_list (h : (g.list steps).write mid = (.ok status, after)) :
    status = .written := by
  obtain ⟨hpolicy, _⟩ | ⟨_, _, _, _, hstatus, _⟩ := Artifact.write_cases h
  · cases hpolicy
  · exact hstatus

-- Where the list can be written is not for its steps to decide.
theorem writable_list_iff : (g.list steps).Writable disk ↔ (g.list names).Writable disk := Iff.rfl

theorem entryAt_write_list (h : (g.list steps).write mid = (.ok status, after))
    (location : Location) :
    after.entryAt location =
      if mid.target? (g.path Source.Registry.fileName) = some location then
        some (.file (Source.Registry.text steps).toUTF8)
      else mid.entryAt location := by
  have hentry := Artifact.entryAt_write h (isSource_list g steps).within.namesFile location
  rw [list_eq] at hentry
  exact hentry

-- The name of the step that a metadata file describes.
def stepName (disk : Disk) (path : String) : String :=
  (readStep path disk).toOption.elim "" Step.name

theorem map_stepName
    (h : List.Forall₂ (fun path a => g.readAssembly path disk = .ok a) paths as) :
    as.map (·.step.name) = paths.map (stepName disk) := by
  induction h with
  | nil => rfl
  | cons hread _ ih =>
      rw [List.map_cons, List.map_cons, ih, stepName, readStep_of_readAssembly hread]
      rfl

-- Two runs that agree about each step and each file, and differ in their order alone.
structure Reordered (g : Generator) (paths others : List String) (disk : Disk) (r : Report)
    (after : Disk) (s : Report) (other : Disk) : Prop where
  read : ∀ path ∈ paths, ∃ step, readStep path disk = .ok step ∧ step.name = stepName disk path
  steps : r.steps = paths.map (stepName disk) ∧ s.steps = others.map (stepName disk)
  outcomes : s.outcomes.Perm r.outcomes
  here : other.here = after.here
  elsewhere : ∀ location, disk.target? (g.path Source.Registry.fileName) ≠ some location →
    other.entryAt location = after.entryAt location
  list : ∃ location, disk.target? (g.path Source.Registry.fileName) = some location ∧
    after.entryAt location = some (.file (Source.Registry.text r.steps).toUTF8) ∧
    other.entryAt location = some (.file (Source.Registry.text s.steps).toUTF8)

end StepCommand.Generator
