import StepCommand.Resource.Environment
import StepCommand.Resource.Metric

namespace StepCommand

-- A variable of its own type, whose definition is part of the sources.
structure Output where
  name : String
  typeName : String
  definition : String
deriving DecidableEq, Repr

namespace Output

def toValue (o : Output) : Value :=
  .object [("name", .text o.name), ("object_name", .text o.typeName), ("def", .text o.definition)]

def ofKind (stepName : String) (resource : Resource) : Resource.Kind → Except Failure Output
  | .environment => do
      let env := Environment.ofResource stepName resource
      return ⟨resource.name, env.typeName, ← env.definition⟩
  | .metric => do
      let metric := Metric.ofResource stepName resource
      return ⟨resource.name, metric.typeName, ← metric.definition⟩

-- Resources of other kinds are passed over.
def ofResources (stepName : String) : List Resource → Except Failure (List Output)
  | [] => .ok []
  | resource :: rest =>
      match Resource.Kind.ofTag? resource.kind with
      | none => ofResources stepName rest
      | some kind => do
          let output ← ofKind stepName resource kind
          return output :: (← ofResources stepName rest)

end Output

end StepCommand
