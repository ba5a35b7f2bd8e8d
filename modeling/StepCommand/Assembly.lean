import StepCommand.Literal
import StepCommand.Output
import StepCommand.Step.Json
import StepCommand.Unique

namespace StepCommand

structure TypedParameter where
  declaration : Parameter
  type : ParameterType

namespace TypedParameter

def ofParameter (p : Parameter) : Except Failure TypedParameter :=
  match ParameterType.ofTag? p.kind with
  | some type => .ok ⟨p, type⟩
  | none => .error (.unknownParameterType p.name p.kind)

def name (p : TypedParameter) : String := p.declaration.name

def isSecret (p : TypedParameter) : Bool := p.declaration.secret

def literal (p : TypedParameter) : Literal :=
  Literal.ofDefault p.name p.type p.declaration.default

def toValue (p : TypedParameter) : Value :=
  .object [
    ("name", .text p.name),
    ("type", .text p.type.tag),
    ("go_type", .text p.type.tag),
    ("flag_type", .text p.type.setter),
    ("default", .text p.literal.text),
    ("reads_environment", .bool p.literal.readsEnvironment),
    ("description", .text p.declaration.description),
    ("mandatory", .bool p.declaration.mandatory),
    ("secret", .bool p.declaration.secret),
    ("scope", Value.ofTexts p.declaration.scope),
    ("aliases", .list (p.declaration.aliases.map Alias.toValue)),
    ("resource_ref", .list (p.declaration.references.map Reference.toValue)),
    ("declared_default", p.declaration.default.getD .null)]

end TypedParameter

-- `declared` are the parameters of the step in their order, repetitions included.
structure Assembly where
  step : Step
  exportPrefix : String
  declared : List TypedParameter
  outputs : List Output

namespace Assembly

-- The first declaration of each name stands.
def parameters (a : Assembly) : List TypedParameter := uniqueBy TypedParameter.name a.declared

def secrets (a : Assembly) : List String :=
  (a.parameters.filter TypedParameter.isSecret).map TypedParameter.name

def readsEnvironment (a : Assembly) : Bool :=
  a.parameters.any fun p => p.literal.readsEnvironment

-- Stands before the names that all commands share.
def qualifier (a : Assembly) : String :=
  if a.exportPrefix = "" then "" else a.exportPrefix ++ "."

def title (a : Assembly) : String := Name.title a.step.name

def commandName (a : Assembly) : String := a.title ++ "Command"

def commandVariable (a : Assembly) : String := "create" ++ a.title ++ "Cmd"

def flagsName (a : Assembly) : String := "add" ++ a.title ++ "Flags"

-- The record that the templates are filled from.
def toValue (a : Assembly) : Value :=
  .object [
    ("step_name", .text a.step.name),
    ("cobra_cmd_func_name", .text a.commandName),
    ("create_cmd_var", .text a.commandVariable),
    ("flags_func", .text a.flagsName),
    ("short", .text a.step.description),
    ("long", .text a.step.longDescription),
    ("export_prefix", .text a.exportPrefix),
    ("qualifier", .text a.qualifier),
    ("parameters", .list (a.parameters.map TypedParameter.toValue)),
    ("declared_parameters", .list (a.declared.map TypedParameter.toValue)),
    ("aliases", .list (a.step.aliases.map Alias.toValue)),
    ("secrets", Value.ofTexts a.secrets),
    ("os_import", .bool a.readsEnvironment),
    ("containers", .list (a.step.containers.map Container.toValue)),
    ("sidecars", .list (a.step.sidecars.map Container.toValue)),
    ("outputs", .list (a.step.resources.map Resource.toValue)),
    ("output_resources", .list (a.outputs.map Output.toValue))]

end Assembly

-- The name of the step is checked first, then its parameters, then its resources.
def Step.assemble (step : Step) (exportPrefix : Option String) : Except Failure Assembly := do
  if !Name.isIdentifier step.name then throw (.invalidStepName step.name)
  let declared ← step.parameters.mapM TypedParameter.ofParameter
  let outputs ← Output.ofResources step.name step.resources
  return { step, exportPrefix := exportPrefix.getD "", declared, outputs }

end StepCommand
