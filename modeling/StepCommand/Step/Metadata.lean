import StepCommand.Step
import StepCommand.Yaml.Read

namespace StepCommand

open Yaml (Path Node Read)
open Yaml.Read (Fields record list option text bool value)

def Alias.read : Nat → Path → Node → Read Alias :=
  record "Alias" ["name"] fields {}
where
  fields : Fields Alias
    | "name" => some fun _ p n a => do return { a with name := ← text p n }
    | "deprecated" => some fun _ p n a => do return { a with deprecated := ← bool p n }
    | _ => none

def Reference.read : Nat → Path → Node → Read Reference :=
  record "ResourceReference" ["name"] fields {}
where
  fields : Fields Reference
    | "name" => some fun _ p n r => do return { r with name := ← text p n }
    | "param" => some fun _ p n r => do return { r with param := ← option (text p) n }
    | "paths" => some fun d p n r => do return { r with paths := ← list (fun _ => text) d p n }
    | "type" => some fun _ p n r => do return { r with kind := ← option (text p) n }
    | _ => none

def Parameter.read : Nat → Path → Node → Read Parameter :=
  record "StepParameter" ["name"] fields {}
where
  fields : Fields Parameter
    | "name" => some fun _ p n r => do return { r with name := ← text p n }
    | "type" => some fun _ p n r => do return { r with kind := ← text p n }
    | "description" => some fun _ p n r => do return { r with description := ← text p n }
    | "mandatory" => some fun _ p n r => do return { r with mandatory := ← bool p n }
    | "secret" => some fun _ p n r => do return { r with secret := ← bool p n }
    | "scope" => some fun d p n r => do return { r with scope := ← list (fun _ => text) d p n }
    | "aliases" => some fun d p n r => do return { r with aliases := ← list Alias.read d p n }
    | "resourceRef" =>
        some fun d p n r => do return { r with references := ← list Reference.read d p n }
    | "default" => some fun d p n r => do return { r with default := ← option (value d p) n }
    | _ => none

def NamedValue.read : Nat → Path → Node → Read NamedValue :=
  record "NameValue" ["name"] fields {}
where
  fields : Fields NamedValue
    | "name" => some fun _ p n r => do return { r with name := ← text p n }
    | "value" => some fun _ p n r => do return { r with value := ← text p n }
    | _ => none

def Condition.read : Nat → Path → Node → Read Condition :=
  record "Condition" ["conditionRef"] fields {}
where
  fields : Fields Condition
    | "conditionRef" => some fun _ p n r => do return { r with reference := ← text p n }
    | "params" => some fun d p n r => do return { r with params := ← list NamedValue.read d p n }
    | _ => none

def Container.read : Nat → Path → Node → Read Container :=
  record "Container" [] fields {}
where
  fields : Fields Container
    | "name" => some fun _ p n r => do return { r with name := ← text p n }
    | "image" => some fun _ p n r => do return { r with image := ← text p n }
    | "env" => some fun d p n r => do return { r with env := ← list NamedValue.read d p n }
    | "workingDir" => some fun _ p n r => do return { r with workingDir := ← text p n }
    | "options" => some fun d p n r => do return { r with options := ← list NamedValue.read d p n }
    | "conditions" =>
        some fun d p n r => do return { r with conditions := ← list Condition.read d p n }
    | _ => none

def Member.read : Nat → Path → Node → Read Member :=
  record "ResourceField" [] fields {}
where
  fields : Fields Member
    | "name" => some fun _ p n r => do return { r with name := ← text p n }
    | "type" => some fun _ p n r => do return { r with kind := ← option (text p) n }
    | _ => none

def Resource.Entry.read : Nat → Path → Node → Read Resource.Entry :=
  record "ResourceParameter" [] known {}
where
  known : Fields Resource.Entry
    | "name" => some fun _ p n r => do return { r with name := ← text p n }
    | "type" => some fun _ p n r => do return { r with kind := ← option (text p) n }
    | "fields" => some fun d p n r => do return { r with fields := ← list Member.read d p n }
    | "tags" => some fun d p n r => do return { r with tags := ← list Member.read d p n }
    | _ => none

def Resource.read : Nat → Path → Node → Read Resource :=
  record "StepResources" ["name"] fields {}
where
  fields : Fields Resource
    | "name" => some fun _ p n r => do return { r with name := ← text p n }
    | "type" => some fun _ p n r => do return { r with kind := ← text p n }
    | "params" =>
        some fun d p n r => do return { r with entries := ← list Resource.Entry.read d p n }
    | _ => none

namespace Step

-- Each section of the file fills in its part of the step.
def metadataFields : Fields Step
  | "name" => some fun _ p n s => do return { s with name := ← text p n }
  | "aliases" => some fun d p n s => do return { s with aliases := ← list Alias.read d p n }
  | "description" => some fun _ p n s => do return { s with description := ← text p n }
  | "longDescription" => some fun _ p n s => do return { s with longDescription := ← text p n }
  | _ => none

def inputFields : Fields Step
  | "params" => some fun d p n s => do return { s with parameters := ← list Parameter.read d p n }
  | _ => none

def outputFields : Fields Step
  | "resources" => some fun d p n s => do return { s with resources := ← list Resource.read d p n }
  | _ => none

def specFields : Fields Step
  | "inputs" => some fun d p n s => record "StepInputs" [] inputFields s d p n
  | "containers" =>
      some fun d p n s => do return { s with containers := ← list Container.read d p n }
  | "sidecars" => some fun d p n s => do return { s with sidecars := ← list Container.read d p n }
  | "outputs" => some fun d p n s => record "StepOutputs" [] outputFields s d p n
  | _ => none

def fileFields : Fields Step
  | "metadata" => some fun d p n s => record "StepMetadata" ["name"] metadataFields s d p n
  | "spec" => some fun d p n s => record "StepSpec" [] specFields s d p n
  | _ => none

def read : Nat → Path → Node → Read Step := record "StepData" ["metadata"] fileFields {}

def ofYaml (text : String) : Except Yaml.Problem Step := Yaml.read read text

end Step

end StepCommand
