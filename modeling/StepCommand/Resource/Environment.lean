import StepCommand.Resource.Checked
import StepCommand.Source.Environment
import StepCommand.Step
import StepCommand.Template.Fill

namespace StepCommand

-- The category is empty for a value at top level.
structure Environment.Variable where
  category : String
  name : String
  kind : String
deriving DecidableEq, Repr

-- Values that a step leaves for later steps, some of them under a category.
structure Environment where
  stepName : String
  name : String
  members : List Environment.Variable := []
  categories : List String := []
deriving DecidableEq, Repr

namespace Environment

open Resource (Named)

-- What stands before the first slash is the category; further slashes are part of the name.
def splitName (declared : String) : String × String :=
  match Text.cutAt '/' declared.toList with
  | some (category, rest) =>
      (String.ofList category, String.ofList (rest.map fun c => if c = '/' then '_' else c))
  | none => ("", declared)

def addCategory (category : String) (categories : List String) : List String :=
  if category = "" ∨ category ∈ categories then categories else categories ++ [category]

def add (env : Environment) (declared : String) (kind : Option String) : Environment :=
  let (category, name) := splitName declared
  { env with
    members := env.members ++ [⟨category, name, Name.memberType kind⟩]
    categories := addCategory category env.categories }

def ofResource (stepName : String) (resource : Resource) : Environment :=
  resource.entries.foldl (fun env entry => env.add entry.name entry.kind)
    { stepName, name := resource.name }

def typeName (env : Environment) : String := Resource.typeName env.stepName env.name

def Variable.field (v : Variable) : String := Name.exported v.name

-- The way to the variable from the resource.
def Variable.accessor (v : Variable) : String :=
  if v.category = "" then v.field else v.category ++ "." ++ v.field

def Variable.record (v : Variable) : Value :=
  .object [("category", .text v.category), ("name", .text v.name), ("field", .text v.field),
    ("type", .text v.kind), ("accessor", .text v.accessor)]

-- The members of a category; those of the empty one are at top level.
def inCategory (env : Environment) (category : String) : List Variable :=
  env.members.filter fun v => v.category = category

def record (env : Environment) : Value :=
  let records (members : List Variable) : Value := .list (members.map Variable.record)
  .object [
    ("struct_name", .text env.typeName),
    ("parameters", records env.members),
    ("uncategorized", records (env.inCategory "")),
    ("categories", .list (env.categories.map fun category =>
      .object [("name", .text category), ("parameters", records (env.inCategory category))]))]

def names (env : Environment) : List Named :=
  env.categories.map (fun category => ⟨"category", category⟩) ++
    env.members.map (fun v => ⟨"field", v.field⟩)

-- The type of the environment, and the method that stores it.
def definition (env : Environment) : Except Failure String := do
  Resource.checkNames env.name env.names
  Template.fill "environmentResource" .empty Source.Environment.template env.record

end Environment

end StepCommand
