import StepCommand.Failure
import StepCommand.Name

namespace StepCommand

inductive Resource.Kind where
  | environment
  | metric
deriving DecidableEq, Repr

def Resource.Kind.tag : Resource.Kind → String
  | environment => "piperEnvironment"
  | metric => "influx"

def Resource.Kind.ofTag? (tag : String) : Option Resource.Kind :=
  [environment, metric].find? fun kind => kind.tag = tag

namespace Resource

-- The name of the type that holds a resource of a step.
def typeName (stepName name : String) : String := stepName ++ Name.title name

-- `what` says what the name is given to.
structure Named where
  what : String
  name : String
deriving DecidableEq, Repr

def Named.reason (n : Named) : String :=
  n.what ++ " '" ++ n.name ++ "' is not a valid identifier"

-- The first name that is no identifier is reported.
def checkNames (resource : String) : List Named → Except Failure Unit
  | [] => .ok ()
  | n :: rest =>
      if Name.isIdentifier n.name then checkNames resource rest
      else .error (.malformedResource resource n.reason)

end Resource

end StepCommand
