import StepCommand.ParameterType
import StepCommand.Value

namespace StepCommand

-- An expression that reads the environment needs an import of its own.
structure Literal where
  text : String
  readsEnvironment : Bool
deriving DecidableEq, Repr

namespace Literal

def constant (text : String) : Literal := ⟨text, false⟩

def rawString (s : String) : String := "`" ++ s ++ "`"

def stringList (texts : List String) : String :=
  "[]string\x7b" ++ ", ".intercalate (texts.map rawString) ++ "\x7d"

-- A value that is no list counts as a list of one.
def itemTexts : Value → List String
  | .list items => items.map Value.plain
  | value => [value.plain]

-- Only `true` itself is true.
def truth : Value → String
  | .bool true => "true"
  | _ => "false"

-- Without a declared default a text is looked up in the environment.
def undeclared (name : String) : ParameterType → Literal
  | .bool => constant "false"
  | .int => constant "0"
  | .string => ⟨"os.Getenv(\"PIPER_" ++ name ++ "\")", true⟩
  | .stringList => constant (stringList [])

def declared (value : Value) : ParameterType → Literal
  | .bool => constant (truth value)
  | .int => constant value.plain
  | .string => constant (rawString value.plain)
  | .stringList => constant (stringList (itemTexts value))

def ofDefault (name : String) (kind : ParameterType) (default : Option Value) : Literal :=
  match default with
  | none => undeclared name kind
  | some value => declared value kind

end Literal

end StepCommand
