import StepCommand.CommandLine.Arguments
import StepCommand.CommandLine.Help
import StepCommand.CommandLine.Terminal
import StepCommand.Job
import StepCommand.Schema
import StepCommand.Value.Pretty

namespace StepCommand.CommandLine

structure Response where
  code : Nat := 0
  out : String := ""
  err : String := ""
deriving DecidableEq, Repr

def job (a : Arguments) : Job where
  metadata := (a.setting? .metadata).getD ({} : Job).metadata
  target := a.setting? .target
  exportPrefix := a.setting? .exportPrefix

-- Lines that follow the first one are set in.
def hanging (indentation s : String) : String := Text.replaceAll "\n" ("\n" ++ indentation) s

-- A failure without a cause of its own stands alone; otherwise the two are numbered.
def causes (f : Failure) : String :=
  match f.cause? with
  | none => "    " ++ hanging "    " f.text
  | some cause =>
      "    0: " ++ hanging "       " f.text ++ "\n    1: " ++ hanging "       " cause

def failed (a : Arguments) (f : Failure) : Response where
  code := 1
  err := "Error: Failed to generate steps from " ++ (job a).metadata ++ "\n\nCaused by:\n" ++
    causes f ++ "\n"

def refused (r : Refusal) : Response where
  code := 2
  err := "error: " ++ r.text ++ "\n\n" ++ Help.usageLine ++
    "\n\nFor more information, try '--help'.\n"

def reported (a : Arguments) (r : Report) : Response where
  out := if a.has .noColor then r.text ++ "\n" else Terminal.page r.text

def shown : Shown → Response
  | .help => { out := Help.long }
  | .summary => { out := Help.short }
  | .version => { out := Help.version }

def schema : Response where
  out := Schema.ofMetadata.pretty 0 ++ "\n"

def generate (a : Arguments) (disk : Disk) : Response × Disk :=
  match (job a).run disk with
  | (.ok r, disk) => (reported a r, disk)
  | (.error f, disk) => (failed a f, disk)

def run (arguments : List String) (disk : Disk) : Response × Disk :=
  match Request.ofArguments arguments with
  | .error r => (refused r, disk)
  | .ok (.present s) => (shown s, disk)
  | .ok (.run a) => if a.has .printSchema then (schema, disk) else generate a disk

end StepCommand.CommandLine
