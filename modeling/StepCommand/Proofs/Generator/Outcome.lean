import StepCommand.Proofs.Generator.Reading

namespace StepCommand.Generator

open Artifact (settled)
open Discovery (IsMetadataPath)

variable {g : Generator} {disk after : Disk} {r : Report}
  {paths : List String}

-- A run that has written the sources of all steps, and then the list of the steps, told from the
-- disk that it starts on.
structure Finished (g : Generator) (paths : List String) (disk : Disk) (r : Report) (after : Disk)
    (as : List Assembly) (artifacts : List Artifact) : Prop where
  read : List.Forall₂ (fun path a => g.readAssembly path disk = .ok a) paths as
  rendered : artifacts.map .ok =
    (as.flatMap fun a => SourceFile.all.map fun file => g.artifact file a) ++
      [g.registry (as.map (·.step.name))]
  steps : r.steps = as.map (·.step.name)
  paths : r.outcomes.map Outcome.path = artifacts.map Artifact.path
  reported : ∀ earlier a later, artifacts = earlier ++ a :: later →
    r.outcomes[earlier.length]? = some (a.reported disk earlier)
  atPath : ∀ a ∈ artifacts, after.entryOf a.path =
    settled (disk.entryOf a.path) (artifacts.filter fun b => b.path = a.path)
  atLocation : ∀ location, after.entryAt location =
    settled (disk.entryAt location)
      (artifacts.filter fun a => disk.target? a.path = some location)

end StepCommand.Generator
