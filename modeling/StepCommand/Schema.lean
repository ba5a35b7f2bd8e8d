import StepCommand.Value

namespace StepCommand

-- What a field holds: a text, a truth value, a text or null, anything, a record or a list.
inductive Schema.Shape where
  | text
  | flag
  | optionalText
  | anything
  | record (name : String)
  | list (item : Schema.Shape)
deriving DecidableEq, Repr

-- A field without a default is required.
structure Schema.Property where
  name : String
  shape : Schema.Shape
  default : Option Value
  description : Option String := none

structure Schema.Record where
  name : String
  description : String
  properties : List Schema.Property

namespace Schema

def place (name : String) : String := "#/$defs/" ++ name

-- What a shape says before and after the default of the field.
def Shape.before : Shape → List (String × Value)
  | text => [("type", .text "string")]
  | flag => [("type", .text "boolean")]
  | optionalText => [("type", .list [.text "string", .text "null"])]
  | anything => []
  | record name => [("$ref", .text (place name))]
  | list _ => [("type", .text "array")]

def Shape.after : Shape → List (String × Value)
  | list item => [("items", .object (item.before ++ item.after))]
  | _ => []

def Property.toValue (p : Property) : Value :=
  .object (
    (p.description.map fun s => ("description", Value.text s)).toList ++ p.shape.before ++
      (p.default.map fun v => ("default", v)).toList ++ p.shape.after)

def Record.required (r : Record) : List String :=
  (r.properties.filter fun p => p.default.isNone).map Property.name

def Record.body (r : Record) : List (String × Value) :=
  [("description", .text r.description), ("type", .text "object"),
    ("properties", .object (r.properties.map fun p => (p.name, p.toValue)))] ++
  if r.required = [] then [] else [("required", .list (r.required.map .text))]

def document (root : Record) (definitions : List Record) : Value :=
  .object (
    [("$schema", .text "https://json-schema.org/draft/2020-12/schema"),
      ("title", .text root.name)] ++
      root.body ++
      [("$defs", .object (definitions.map fun r => (r.name, .object r.body)))])

def requiredText (name : String) : Property := ⟨name, .text, none, none⟩

def text (name : String) : Property := ⟨name, .text, some (.text ""), none⟩

def flag (name : String) : Property := ⟨name, .flag, some (.bool false), none⟩

def optionalText (name : String) : Property := ⟨name, .optionalText, some .null, none⟩

def list (name : String) (item : Shape) : Property := ⟨name, .list item, some (.list []), none⟩

def Property.describe (p : Property) (description : String) : Property :=
  { p with description := some description }

def otherName : Record where
  name := "Alias"
  description := "Alternative name of a step or parameter."
  properties := [flag "deprecated", requiredText "name"]

def condition : Record where
  name := "Condition"
  description := "Activation condition of a container."
  properties := [requiredText "conditionRef", list "params" (.record "NameValue")]

def container : Record where
  name := "Container"
  description := "A container the step runs in, or a sidecar next to it."
  properties := [list "conditions" (.record "Condition"), list "env" (.record "NameValue"),
    text "image", text "name", list "options" (.record "NameValue"), text "workingDir"]

def namedValue : Record where
  name := "NameValue"
  description := "Name/value pair used for environment variables, options and condition\n" ++
    "parameters."
  properties := [requiredText "name", text "value"]

def member : Record where
  name := "ResourceField"
  description := "Field or tag of a measurement."
  properties := [text "name", optionalText "type"]

def resourceEntry : Record where
  name := "ResourceParameter"
  description := "Entry of an output resource.\n\n" ++
    "For environment resources this is a (possibly `category/`-prefixed) value\n" ++
    "name with an optional type. For metric resources it is a measurement with\n" ++
    "its fields and tags."
  properties := [list "fields" (.record "ResourceField"), text "name",
    list "tags" (.record "ResourceField"), optionalText "type"]

def reference : Record where
  name := "ResourceReference"
  description := "Reference to a runtime resource providing a parameter value."
  properties := [requiredText "name", optionalText "param", list "paths" .text,
    optionalText "type"]

def inputs : Record where
  name := "StepInputs"
  description := "Declared step inputs."
  properties := [(list "params" (.record "StepParameter")).describe
    "Parameters in declaration order, duplicates included"]

def metadata : Record where
  name := "StepMetadata"
  description := "Identity and documentation of a step."
  properties := [
    (list "aliases" (.record "Alias")).describe "Alternative names under which the step is known",
    (text "description").describe "One-line description",
    (text "longDescription").describe "Multi-line description shown in command help",
    (requiredText "name").describe "Step name, used verbatim as the Go function name"]

def outputs : Record where
  name := "StepOutputs"
  description := "Declared step outputs."
  properties := [list "resources" (.record "StepResources")]

def parameter : Record where
  name := "StepParameter"
  description := "A declared step parameter.\n\n" ++
    "The type is kept as the raw tag from the metadata file. It is validated\n" ++
    "when the step info is assembled so the error can name the parameter."
  properties := [
    list "aliases" (.record "Alias"),
    ⟨"default", .anything, some .null, some "Declared default; `None` when absent or `null`"⟩,
    text "description",
    flag "mandatory",
    requiredText "name",
    (list "resourceRef" (.record "ResourceReference")).describe
      "Sources the value may be resolved from at runtime",
    (list "scope" .text).describe "Configuration scopes the parameter may be set in",
    flag "secret",
    (text "type").describe "Raw type tag: `bool`, `int`, `string` or `[]string`"]

def resource : Record where
  name := "StepResources"
  description := "One output resource. `kind` selects the builder; kinds the generator does\n" ++
    "not know are skipped."
  properties := [requiredText "name", list "params" (.record "ResourceParameter"), text "type"]

def noInputs : Value := .object [("params", .list [])]

def noOutputs : Value := .object [("resources", .list [])]

def spec : Record where
  name := "StepSpec"
  description := "Specification part of a step."
  properties := [
    list "containers" (.record "Container"),
    ⟨"inputs", .record "StepInputs", some noInputs, none⟩,
    ⟨"outputs", .record "StepOutputs", some noOutputs, none⟩,
    list "sidecars" (.record "Container")]

def step : Record where
  name := "StepData"
  description := "A complete step description, one per metadata file."
  properties := [
    ⟨"metadata", .record "StepMetadata", none, some "Identity and documentation of the step"⟩,
    ⟨"spec", .record "StepSpec",
      some (.object [("containers", .list []), ("inputs", noInputs), ("outputs", noOutputs),
        ("sidecars", .list [])]),
      some "Inputs, execution environment and outputs"⟩]

def ofMetadata : Value :=
  document step [otherName, condition, container, namedValue, member, resourceEntry, reference,
    inputs, metadata, outputs, parameter, resource, spec]

end Schema

end StepCommand
