import StepCommand.ParameterType
import StepCommand.Text.Quoted

namespace StepCommand.Template

inductive Fault where
  | missingVariable (path : Option String)
  | indexByName (name : String)
  | unknownHelper (name : String)
  | missingArgument (helper argument : String)
  | argumentType (helper argument expected : String)
  | missingAt (helper : String) (index : Nat)
  | unknownType (tag : String)
deriving DecidableEq, Repr

def Fault.text : Fault → String
  | missingVariable none => "Failed to access variable in strict mode None"
  | missingVariable (some path) =>
      "Failed to access variable in strict mode Some(" ++ Text.quoted path ++ ")"
  | indexByName name => "Cannot access array/vector with string index, " ++ name
  | unknownHelper name => "Helper not found " ++ name
  | missingArgument helper argument =>
      "Helper/Decorator " ++ helper ++ " param with name " ++ argument ++
        " required but not found"
  | argumentType helper argument expected =>
      "Helper/Decorator " ++ helper ++ " param with name " ++ argument ++
        " type mismatch for " ++ expected
  | missingAt helper index =>
      "Helper/Decorator " ++ helper ++ " param at index " ++ toString index ++
        " required but not found"
  | unknownType tag => ParameterType.unknown tag

end StepCommand.Template
