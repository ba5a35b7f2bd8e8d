import StepCommand.RawPath

namespace StepCommand

-- A file that is already there may be kept.
inductive Status where
  | written
  | kept
deriving DecidableEq, Repr

def Status.text : Status → String
  | written => "written"
  | kept => "kept"

-- What is shown of a path.
class Shown (P : Type) where
  shown : P → String

instance : Shown String := ⟨id⟩

instance : Shown RawPath := ⟨RawPath.text⟩

structure Outcome (P : Type := String) where
  path : P
  status : Status
deriving DecidableEq, Repr

def Outcome.line {P : Type} [Shown P] (outcome : Outcome P) : String :=
  "- `" ++ Shown.shown outcome.path ++ "` (" ++ outcome.status.text ++ ")\n"

-- The names of the steps and the files, in the order in which they were handled.
structure Report (P : Type := String) where
  steps : List String := []
  outcomes : List (Outcome P) := []
deriving DecidableEq, Repr

namespace Report

variable {P : Type}

def addStep (r : Report P) (name : String) : Report P := { r with steps := r.steps ++ [name] }

def addOutcome (r : Report P) (outcome : Outcome P) : Report P :=
  { r with outcomes := r.outcomes ++ [outcome] }

def withStatus (r : Report P) (status : Status) : List (Outcome P) :=
  r.outcomes.filter fun outcome => outcome.status = status

def written (r : Report P) : List (Outcome P) := r.withStatus .written

def kept (r : Report P) : List (Outcome P) := r.withStatus .kept

def stepLine (name : String) : String := "- " ++ name ++ "\n"

def heading (r : Report P) : String :=
  "# Generated " ++ toString r.steps.length ++ " step(s)\n\n"

def filesHeading (r : Report P) : String :=
  "\n## Files (" ++ toString r.written.length ++ " written, " ++ toString r.kept.length ++
    " kept)\n\n"

def text [Shown P] (r : Report P) : String :=
  if r.steps = [] then r.heading ++ "No metadata files found."
  else
    r.heading ++ String.join (r.steps.map stepLine) ++ r.filesHeading ++
      String.join (r.outcomes.map Outcome.line)

end Report

end StepCommand
