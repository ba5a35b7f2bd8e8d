import StepCommand.Value

namespace StepCommand

-- Another name of a step or a parameter.
structure Alias where
  name : String := ""
  deprecated : Bool := false
deriving DecidableEq, Repr, Inhabited

-- A resource from which the value of a parameter may be taken.
structure Reference where
  name : String := ""
  param : Option String := none
  paths : List String := []
  kind : Option String := none
deriving DecidableEq, Repr, Inhabited

-- `kind` is the type as it is written; `default` is none if no default is declared.
structure Parameter where
  name : String := ""
  kind : String := ""
  description : String := ""
  mandatory : Bool := false
  secret : Bool := false
  scope : List String := []
  aliases : List Alias := []
  references : List Reference := []
  default : Option Value := none
deriving Inhabited, Repr

-- A variable of the environment, an option or an argument of a condition.
structure NamedValue where
  name : String := ""
  value : String := ""
deriving DecidableEq, Repr, Inhabited

structure Condition where
  reference : String := ""
  params : List NamedValue := []
deriving DecidableEq, Repr, Inhabited

structure Container where
  name : String := ""
  image : String := ""
  env : List NamedValue := []
  workingDir : String := ""
  options : List NamedValue := []
  conditions : List Condition := []
deriving DecidableEq, Repr, Inhabited

-- A field or a tag of a measurement.
structure Member where
  name : String := ""
  kind : Option String := none
deriving DecidableEq, Repr, Inhabited

-- A value of an environment, or a measurement with its fields and tags.
structure Resource.Entry where
  name : String := ""
  kind : Option String := none
  fields : List Member := []
  tags : List Member := []
deriving DecidableEq, Repr, Inhabited

structure Resource where
  name : String := ""
  kind : String := ""
  entries : List Resource.Entry := []
deriving DecidableEq, Repr, Inhabited

structure Step where
  name : String := ""
  aliases : List Alias := []
  description : String := ""
  longDescription : String := ""
  parameters : List Parameter := []
  containers : List Container := []
  sidecars : List Container := []
  resources : List Resource := []
deriving Inhabited, Repr

end StepCommand
