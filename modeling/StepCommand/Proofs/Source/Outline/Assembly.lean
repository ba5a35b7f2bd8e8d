import StepCommand.Assembly
import StepCommand.Proofs.Source.Outline

namespace StepCommand

open Source

-- A resource is passed by a pointer to it.
def Source.Variable.pointed (v : Variable) : Variable := ⟨v.name, .pointer v.type⟩

-- The function that gives the metadata of a step.
def Source.accessorOf (stepName : String) : String := stepName ++ "Metadata"

-- The list of all steps has an entry for each.
def Source.Registry.entry (stepName : String) : Line :=
  ⟨2, .entry stepName ⟨accessorOf stepName, []⟩⟩

namespace Assembly

variable (a : Assembly)

def optionsType : String := a.step.name ++ "Options"

def utilsType : String := a.step.name ++ "Utils"

def bundleType : String := a.step.name ++ "UtilsBundle"

def mockType : String := a.step.name ++ "MockUtils"

def utilsConstructor : String := "new" ++ (a.title ++ "Utils")

def mockConstructor : String := "new" ++ (a.title ++ "TestsUtils")

def runName : String := "run" ++ a.title

def accessorName : String := accessorOf a.step.name

def resourceVariables : List Variable := a.outputs.map fun o => ⟨o.name, .own o.typeName⟩

def typeNames : List String := a.outputs.map Output.typeName

def stepSignature : Signature where
  name := a.step.name
  parameters :=
    ⟨"config", .own a.optionsType⟩ ::
      ⟨"telemetryData", .pointer (.foreign "telemetry.CustomData")⟩ ::
        a.resourceVariables.map Variable.pointed
  result := none

def runSignature : Signature where
  name := a.runName
  parameters :=
    ⟨"config", .pointer (.own a.optionsType)⟩ ::
      ⟨"telemetryData", .pointer (.foreign "telemetry.CustomData")⟩ ::
        ⟨"utils", .own a.utilsType⟩ :: a.resourceVariables.map Variable.pointed
  result := some (.foreign "error")

def stepCall : Call where
  function := a.step.name
  arguments :=
    .value "stepConfig" :: .address "telemetryData" ::
      a.resourceVariables.map fun v => .address v.name

def runCall : Call where
  function := a.runName
  arguments :=
    .address "config" :: .value "telemetryData" :: .value "utils" ::
      a.resourceVariables.map fun v => .value v.name

def testCall : Call where
  function := a.runName
  arguments :=
    .address "config" :: .nil :: .value "utils" :: a.typeNames.map .empty

def typesOutline : Outline :=
  ⟨0, .struct a.optionsType⟩ :: a.typeNames.map fun name => ⟨0, .struct name⟩

def constructorOutline : Outline :=
  ⟨0, .function ⟨a.commandName, [], some (.pointer (.foreign "cobra.Command"))⟩⟩ ::
    ⟨1, .result "metadata" ⟨a.accessorName, []⟩⟩ ::
      ⟨1, .declared ⟨"stepConfig", .own a.optionsType⟩⟩ ::
        (a.resourceVariables.map (fun v => ⟨1, .declared v⟩) ++ [
          ⟨3, .empty ⟨"telemetryData", .foreign "telemetry.CustomData"⟩⟩,
          ⟨3, .call a.stepCall⟩])

def accessorOutline : Outline :=
  [⟨0, .function ⟨a.accessorName, [], some (.foreign "config.StepData")⟩⟩]

def commandOutline : Outline := a.typesOutline ++ a.constructorOutline ++ a.accessorOutline

def commandTestOutline : Outline := [
  ⟨0, .function ⟨"Test" ++ a.commandName, [⟨"t", .pointer (.foreign "testing.T")⟩], none⟩⟩,
  ⟨1, .result "testCmd" ⟨a.commandName, []⟩⟩]

def implementationOutline : Outline := [
  ⟨0, .interface a.utilsType⟩,
  ⟨0, .struct a.bundleType⟩,
  ⟨0, .function ⟨a.utilsConstructor, [], some (.own a.utilsType)⟩⟩,
  ⟨1, .opened ⟨"utils", .own a.bundleType⟩⟩,
  ⟨0, .function a.stepSignature⟩,
  ⟨1, .result "utils" ⟨a.utilsConstructor, []⟩⟩,
  ⟨1, .result "err" a.runCall⟩,
  ⟨0, .function a.runSignature⟩]

-- The files that are compiled together without the tests.
def package : Outline := a.commandOutline ++ a.implementationOutline

def mockOutline : Outline := [
  ⟨0, .struct a.mockType⟩,
  ⟨0, .function ⟨a.mockConstructor, [], some (.own a.mockType)⟩⟩,
  ⟨1, .opened ⟨"utils", .own a.mockType⟩⟩]

def caseOutline : Outline := [
  ⟨2, .empty ⟨"config", .own a.optionsType⟩⟩,
  ⟨2, .result "utils" ⟨a.mockConstructor, []⟩⟩,
  ⟨2, .result "err" a.testCall⟩]

def implementationTestOutline : Outline :=
  a.mockOutline ++
    ⟨0, .function ⟨"TestRun" ++ a.title, [⟨"t", .pointer (.foreign "testing.T")⟩], none⟩⟩ ::
      (a.caseOutline ++ a.caseOutline)

end Assembly

end StepCommand
