namespace StepCommand

inductive ParameterType where
  | bool
  | int
  | string
  | stringList
deriving DecidableEq, Repr

namespace ParameterType

-- The tag of a type is the type's name in the generated sources.
def tag : ParameterType → String
  | bool => "bool"
  | int => "int"
  | string => "string"
  | stringList => "[]string"

def ofTag? (tag : String) : Option ParameterType :=
  [bool, int, string, stringList].find? fun kind => kind.tag = tag

-- The method that registers a flag of the type.
def setter : ParameterType → String
  | bool => "BoolVar"
  | int => "IntVar"
  | string => "StringVar"
  | stringList => "StringSliceVar"

def unknown (tag : String) : String := "Meta data type not set or not known: '" ++ tag ++ "'"

end ParameterType

end StepCommand
