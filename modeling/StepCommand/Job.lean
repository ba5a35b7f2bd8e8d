import StepCommand.Generator.Settings

namespace StepCommand

structure Job where
  metadata : String := "./resources/metadata"
  target : Option String := none
  exportPrefix : Option String := none
deriving DecidableEq, Repr

namespace Job

open Generator (Settings)

def settings (job : Job) : Settings :=
  (({} : Settings).withTarget job.target).withExportPrefix job.exportPrefix

def run (job : Job) : Run Report := do
  (← job.settings.generator).generate job.metadata

def toValue (job : Job) : Value :=
  .object [("metadata_dir", .text job.metadata), ("target_dir", Value.ofOption job.target),
    ("export_prefix", Value.ofOption job.exportPrefix)]

def ofValue? (v : Value) : Option Job := do
  let e ← v.fields? ["metadata_dir", "target_dir", "export_prefix"]
  return {
    metadata := ← Value.fieldOr e "metadata_dir" none Value.asText?
    target := ← Value.fieldOr e "target_dir" (some none) Value.asOption?
    exportPrefix := ← Value.fieldOr e "export_prefix" (some none) Value.asOption? }

end Job

end StepCommand
