import StepCommand.Step

namespace StepCommand

namespace Value

def ofOption (s : Option String) : Value :=
  match s with
  | some s => .text s
  | none => .null

def ofTexts (texts : List String) : Value := .list (texts.map .text)

-- The fields of a record. A record may also be given as the list of its leading fields.
def fields? (names : List String) : Value → Option (List (String × Value))
  | object entries => some entries
  | list items => if items.length ≤ names.length then some (names.zip items) else none
  | _ => none

def asText? : Value → Option String
  | text s => some s
  | _ => none

def asBool? : Value → Option Bool
  | bool b => some b
  | _ => none

def asOption? : Value → Option (Option String)
  | null => some none
  | text s => some (some s)
  | _ => none

def asList? {α : Type} (read : Value → Option α) : Value → Option (List α)
  | list items => items.mapM read
  | _ => none

-- A field of a record, or what stands for it when it is absent.
def fieldOr {α : Type} (entries : List (String × Value)) (name : String) (absent : Option α)
    (read : Value → Option α) : Option α :=
  match entries.lookup name with
  | some value => read value
  | none => absent

end Value

open Value (ofOption ofTexts asText? asBool? asOption? asList? fieldOr fields?)

namespace Alias

def toValue (a : Alias) : Value :=
  .object [("name", .text a.name), ("deprecated", .bool a.deprecated)]

def ofValue? (v : Value) : Option Alias := do
  let e ← v.fields? ["name", "deprecated"]
  return {
    name := ← fieldOr e "name" none asText?
    deprecated := ← fieldOr e "deprecated" (some false) asBool? }

end Alias

namespace Reference

def toValue (r : Reference) : Value :=
  .object [("name", .text r.name), ("param", ofOption r.param), ("paths", ofTexts r.paths),
    ("type", ofOption r.kind)]

def ofValue? (v : Value) : Option Reference := do
  let e ← v.fields? ["name", "param", "paths", "type"]
  return {
    name := ← fieldOr e "name" none asText?
    param := ← fieldOr e "param" (some none) asOption?
    paths := ← fieldOr e "paths" (some []) (asList? asText?)
    kind := ← fieldOr e "type" (some none) asOption? }

end Reference

namespace Parameter

def toValue (p : Parameter) : Value :=
  .object [("name", .text p.name), ("type", .text p.kind), ("description", .text p.description),
    ("mandatory", .bool p.mandatory), ("secret", .bool p.secret), ("scope", ofTexts p.scope),
    ("aliases", .list (p.aliases.map Alias.toValue)),
    ("resourceRef", .list (p.references.map Reference.toValue)),
    ("default", p.default.getD .null)]

-- A default of null is none.
def defaultOf : Value → Option Value
  | .null => none
  | value => some value

def ofValue? (v : Value) : Option Parameter := do
  let e ← v.fields? ["name", "type", "description", "mandatory", "secret", "scope", "aliases",
    "resourceRef", "default"]
  return {
    name := ← fieldOr e "name" none asText?
    kind := ← fieldOr e "type" (some "") asText?
    description := ← fieldOr e "description" (some "") asText?
    mandatory := ← fieldOr e "mandatory" (some false) asBool?
    secret := ← fieldOr e "secret" (some false) asBool?
    scope := ← fieldOr e "scope" (some []) (asList? asText?)
    aliases := ← fieldOr e "aliases" (some []) (asList? Alias.ofValue?)
    references := ← fieldOr e "resourceRef" (some []) (asList? Reference.ofValue?)
    default := ← fieldOr e "default" (some none) fun value => some (defaultOf value) }

end Parameter

namespace NamedValue

def toValue (n : NamedValue) : Value := .object [("name", .text n.name), ("value", .text n.value)]

def ofValue? (v : Value) : Option NamedValue := do
  let e ← v.fields? ["name", "value"]
  return {
    name := ← fieldOr e "name" none asText?
    value := ← fieldOr e "value" (some "") asText? }

end NamedValue

namespace Condition

def toValue (c : Condition) : Value :=
  .object [("conditionRef", .text c.reference), ("params", .list (c.params.map NamedValue.toValue))]

def ofValue? (v : Value) : Option Condition := do
  let e ← v.fields? ["conditionRef", "params"]
  return {
    reference := ← fieldOr e "conditionRef" none asText?
    params := ← fieldOr e "params" (some []) (asList? NamedValue.ofValue?) }

end Condition

namespace Container

def toValue (c : Container) : Value :=
  .object [("name", .text c.name), ("image", .text c.image),
    ("env", .list (c.env.map NamedValue.toValue)), ("workingDir", .text c.workingDir),
    ("options", .list (c.options.map NamedValue.toValue)),
    ("conditions", .list (c.conditions.map Condition.toValue))]

def ofValue? (v : Value) : Option Container := do
  let e ← v.fields? ["name", "image", "env", "workingDir", "options", "conditions"]
  return {
    name := ← fieldOr e "name" (some "") asText?
    image := ← fieldOr e "image" (some "") asText?
    env := ← fieldOr e "env" (some []) (asList? NamedValue.ofValue?)
    workingDir := ← fieldOr e "workingDir" (some "") asText?
    options := ← fieldOr e "options" (some []) (asList? NamedValue.ofValue?)
    conditions := ← fieldOr e "conditions" (some []) (asList? Condition.ofValue?) }

end Container

namespace Member

def toValue (m : Member) : Value := .object [("name", .text m.name), ("type", ofOption m.kind)]

def ofValue? (v : Value) : Option Member := do
  let e ← v.fields? ["name", "type"]
  return {
    name := ← fieldOr e "name" (some "") asText?
    kind := ← fieldOr e "type" (some none) asOption? }

end Member

namespace Resource.Entry

def toValue (r : Resource.Entry) : Value :=
  .object [("name", .text r.name), ("type", ofOption r.kind),
    ("fields", .list (r.fields.map Member.toValue)), ("tags", .list (r.tags.map Member.toValue))]

def ofValue? (v : Value) : Option Resource.Entry := do
  let e ← v.fields? ["name", "type", "fields", "tags"]
  return {
    name := ← fieldOr e "name" (some "") asText?
    kind := ← fieldOr e "type" (some none) asOption?
    fields := ← fieldOr e "fields" (some []) (asList? Member.ofValue?)
    tags := ← fieldOr e "tags" (some []) (asList? Member.ofValue?) }

end Resource.Entry

namespace Resource

def toValue (r : Resource) : Value :=
  .object [("name", .text r.name), ("type", .text r.kind),
    ("params", .list (r.entries.map Resource.Entry.toValue))]

def ofValue? (v : Value) : Option Resource := do
  let e ← v.fields? ["name", "type", "params"]
  return {
    name := ← fieldOr e "name" none asText?
    kind := ← fieldOr e "type" (some "") asText?
    entries := ← fieldOr e "params" (some []) (asList? Resource.Entry.ofValue?) }

end Resource

namespace Step

def toValue (s : Step) : Value :=
  .object [
    ("metadata", .object [("name", .text s.name), ("aliases", .list (s.aliases.map Alias.toValue)),
      ("description", .text s.description), ("longDescription", .text s.longDescription)]),
    ("spec", .object [
      ("inputs", .object [("params", .list (s.parameters.map Parameter.toValue))]),
      ("containers", .list (s.containers.map Container.toValue)),
      ("sidecars", .list (s.sidecars.map Container.toValue)),
      ("outputs", .object [("resources", .list (s.resources.map Resource.toValue))])])]

def metadataOf? (v : Value) : Option Step := do
  let e ← v.fields? ["name", "aliases", "description", "longDescription"]
  return {
    name := ← fieldOr e "name" none asText?
    aliases := ← fieldOr e "aliases" (some []) (asList? Alias.ofValue?)
    description := ← fieldOr e "description" (some "") asText?
    longDescription := ← fieldOr e "longDescription" (some "") asText? }

def parametersOf? (v : Value) : Option (List Parameter) := do
  fieldOr (← v.fields? ["params"]) "params" (some []) (asList? Parameter.ofValue?)

def resourcesOf? (v : Value) : Option (List Resource) := do
  fieldOr (← v.fields? ["resources"]) "resources" (some []) (asList? Resource.ofValue?)

-- Adds the specification to what the metadata say.
def specOf? (s : Step) (v : Value) : Option Step := do
  let e ← v.fields? ["inputs", "containers", "sidecars", "outputs"]
  return { s with
    parameters := ← fieldOr e "inputs" (some []) parametersOf?
    containers := ← fieldOr e "containers" (some []) (asList? Container.ofValue?)
    sidecars := ← fieldOr e "sidecars" (some []) (asList? Container.ofValue?)
    resources := ← fieldOr e "outputs" (some []) resourcesOf? }

def ofValue? (v : Value) : Option Step := do
  let e ← v.fields? ["metadata", "spec"]
  let s ← fieldOr e "metadata" none metadataOf?
  fieldOr e "spec" (some s) s.specOf?

end Step

end StepCommand
