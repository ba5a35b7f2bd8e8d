import StepCommand.Proofs.Generator.Sources
import StepCommand.Proofs.Source.Outline.Command
import StepCommand.Proofs.Source.Outline.ImplementationTest
import StepCommand.Proofs.Text.Between

namespace StepCommand

open Source
open Text (HasLines InOrder)

variable {step : Step} {exportPrefix : Option String} {a : Assembly}

namespace Source

variable {interfaces : List String} {scope vs : List Variable}

-- A resource is taken by a pointer, whichever way it is passed.
theorem forall₂_pointed {argument : Variable → Argument}
    (h : ∀ v ∈ vs, HasType interfaces scope (argument v) (.pointer v.type)) :
    List.Forall₂ (HasType interfaces scope) (vs.map argument)
      ((vs.map Variable.pointed).map Variable.type) := by
  rw [List.map_map, List.forall₂_map_left_iff, List.forall₂_map_right_iff, List.forall₂_same]
  exact h

end Source

namespace Assembly

variable {interfaces : List String} {scope : List Variable} (a)

theorem stepCall_fits (hconfig : ⟨"stepConfig", .own a.optionsType⟩ ∈ scope)
    (htelemetry : ⟨"telemetryData", .foreign "telemetry.CustomData"⟩ ∈ scope)
    (hresources : ∀ v ∈ a.resourceVariables, v ∈ scope) :
    a.stepCall.Fits interfaces scope a.stepSignature where
  name := rfl
  length := by simp [stepCall, stepSignature]
  types := fun h => .cons (.value (h.typeOf?_eq hconfig)) (.cons (.address (h.typeOf?_eq htelemetry))
    (forall₂_pointed fun v hv => .address (h.typeOf?_eq (hresources v hv))))

theorem runCall_fits (hconfig : ⟨"config", .own a.optionsType⟩ ∈ scope)
    (htelemetry : ⟨"telemetryData", .pointer (.foreign "telemetry.CustomData")⟩ ∈ scope)
    (hutils : ⟨"utils", .own a.utilsType⟩ ∈ scope)
    (hresources : ∀ v ∈ a.resourceVariables, v.pointed ∈ scope) :
    a.runCall.Fits interfaces scope a.runSignature where
  name := rfl
  length := by simp [runCall, runSignature]
  types := fun h => .cons (.address (h.typeOf?_eq hconfig)) (.cons (.value (h.typeOf?_eq htelemetry))
    (.cons (.value (h.typeOf?_eq hutils))
      (forall₂_pointed fun v hv => .value (h.typeOf?_eq (hresources v hv)))))

theorem testCall_fits (hconfig : ⟨"config", .own a.optionsType⟩ ∈ scope)
    (hutils : ⟨"utils", .own a.mockType⟩ ∈ scope) (hinterface : a.utilsType ∈ interfaces) :
    a.testCall.Fits interfaces scope a.runSignature where
  name := rfl
  length := by simp [testCall, runSignature, resourceVariables, typeNames]
  types := by
    intro h
    have hresources : List.Forall₂ (HasType interfaces scope)
        (a.typeNames.map .empty) ((a.resourceVariables.map Variable.pointed).map Variable.type) := by
      rw [resourceVariables, typeNames, List.map_map, List.map_map, List.map_map,
        List.forall₂_map_left_iff, List.forall₂_map_right_iff, List.forall₂_same]
      exact fun o _ => .empty o.typeName
    exact .cons (.address (h.typeOf?_eq hconfig)) (.cons (.nil _)
      (.cons (.implementing (h.typeOf?_eq hutils) hinterface) hresources))

theorem flatMap_none {α β : Type} (xs : List α) : xs.flatMap (fun _ => ([] : List β)) = [] :=
  List.flatMap_eq_nil_iff.mpr fun _ _ => rfl

theorem items_commandOutline : a.commandOutline.items =
    .struct a.optionsType :: (a.typeNames.map .struct ++
      .function ⟨a.commandName, [], some (.pointer (.foreign "cobra.Command"))⟩ ::
        .result "metadata" ⟨a.accessorName, []⟩ ::
          .declared ⟨"stepConfig", .own a.optionsType⟩ :: (a.resourceVariables.map .declared ++ [
            .empty ⟨"telemetryData", .foreign "telemetry.CustomData"⟩,
            .call a.stepCall,
            .function ⟨a.accessorName, [], some (.foreign "config.StepData")⟩])) := by
  simp [commandOutline, typesOutline, constructorOutline, accessorOutline, Outline.items,
    typeNames, Function.comp_def]

theorem defines_commandOutline : a.commandOutline.defines =
    a.optionsType :: (a.typeNames ++ [a.commandName, a.accessorName]) := by
  simp [Outline.defines, items_commandOutline, Item.defines, List.flatMap_map, flatMap_none]

theorem functions_commandOutline : a.commandOutline.functions = [
    ⟨a.commandName, [], some (.pointer (.foreign "cobra.Command"))⟩,
    ⟨a.accessorName, [], some (.foreign "config.StepData")⟩] := by
  simp [Outline.functions, items_commandOutline, Item.functions, List.flatMap_map, flatMap_none]

theorem functions_implementationOutline : a.implementationOutline.functions =
    [⟨a.utilsConstructor, [], some (.own a.utilsType)⟩, a.stepSignature, a.runSignature] :=
  rfl

theorem defines_implementationOutline : a.implementationOutline.defines =
    [a.utilsType, a.bundleType, a.utilsConstructor, a.step.name, a.runName] :=
  rfl

theorem defines_package : a.package.defines =
    a.optionsType :: (a.typeNames ++ [a.commandName, a.accessorName, a.utilsType, a.bundleType,
      a.utilsConstructor, a.step.name, a.runName]) := by
  rw [package, Outline.defines_append, defines_commandOutline, defines_implementationOutline,
    List.cons_append, List.append_assoc]
  rfl

theorem uses_commandOutline : a.commandOutline.uses =
    a.accessorName :: a.optionsType :: (a.typeNames ++ [a.step.name]) := by
  simp [Outline.uses, items_commandOutline, Item.uses, TypeName.names, Call.names, stepCall,
    resourceVariables, typeNames, Argument.names, List.flatMap_map, flatMap_none,
    ← List.map_eq_flatMap]

theorem uses_implementationOutline : a.implementationOutline.uses =
    a.utilsType :: a.bundleType :: a.optionsType :: (a.typeNames ++
      a.utilsConstructor :: a.runName :: a.optionsType :: a.utilsType :: a.typeNames) := by
  simp [Outline.uses, Outline.items, implementationOutline, Item.uses, stepSignature,
    runSignature, runCall, resourceVariables, typeNames, TypeName.names, Call.names,
    Argument.names, Variable.pointed, List.flatMap_map, flatMap_none, ← List.map_eq_flatMap]

theorem uses_implementationTestOutline : a.implementationTestOutline.uses =
    a.mockType :: a.mockType :: a.optionsType :: a.mockConstructor :: a.runName :: (a.typeNames ++
      a.optionsType :: a.mockConstructor :: a.runName :: a.typeNames) := by
  simp [Outline.uses, Outline.items, implementationTestOutline, mockOutline, caseOutline,
    Item.uses, testCall, typeNames, TypeName.names, Call.names, Argument.names,
    List.flatMap_map, ← List.map_eq_flatMap]

-- What a file uses is there, in itself or in the files that it is compiled with.
theorem resolves_command : a.commandOutline.Resolves a.package where
  defined := by
    rw [uses_commandOutline, defines_package]
    simp +contextual [or_imp]
  typed := by
    rw [package, Outline.functions_append, functions_commandOutline,
      functions_implementationOutline, items_commandOutline, Item.AreTyped, Item.areTyped_struct]
    refine ⟨_, .tail _ (.head _), .of_nil _ _, _, rfl, ?_⟩
    rw [Item.AreTyped, Item.areTyped_declared, Item.AreTyped]
    refine ⟨⟨a.stepSignature, by simp, a.stepCall_fits ?_ ?_ ?_⟩, trivial⟩
    · simp
    · simp
    · intro v hv
      simp [hv]

theorem resolves_commandTest : a.commandTestOutline.Resolves a.commandOutline where
  defined := by
    have huses : a.commandTestOutline.uses = [a.commandName] := rfl
    rw [huses, defines_commandOutline]
    simp
  typed := by
    rw [functions_commandOutline]
    exact ⟨_, .head _, .of_nil _ _, _, rfl, trivial⟩

theorem resolves_entry : Outline.Resolves [Registry.entry a.step.name] a.commandOutline where
  defined := by
    have huses : Outline.uses [Registry.entry a.step.name] = [a.accessorName] := rfl
    rw [huses, defines_commandOutline]
    simp
  typed := by
    rw [functions_commandOutline]
    exact ⟨⟨_, .tail _ (.head _), .of_nil _ _⟩, trivial⟩

theorem resolves_implementation : a.implementationOutline.Resolves a.package where
  defined := by
    rw [uses_implementationOutline, defines_package]
    simp +contextual [or_imp]
  typed := by
    have hresources : ∀ v ∈ a.resourceVariables, v.pointed ∈ a.stepSignature.parameters := by
      intro v hv
      exact .tail _ (.tail _ (List.mem_map_of_mem hv))
    rw [package, Outline.functions_append, functions_commandOutline,
      functions_implementationOutline]
    refine ⟨⟨a.utilsConstructor, [], some (.own a.utilsType)⟩, by simp, .of_nil _ _, _, rfl, ?_⟩
    refine ⟨a.runSignature, by simp, a.runCall_fits ?_ ?_ ?_ ?_, _, rfl, trivial⟩
    · simp [stepSignature]
    · simp [stepSignature]
    · simp
    · intro v hv
      exact .tail _ (hresources v hv)

-- The test brings a utility type of its own. That it has the methods is not looked at.
theorem resolves_implementationTest :
    a.implementationTestOutline.Resolves (a.mockOutline ++ a.package) where
  defined := by
    have hdefines : a.mockOutline.defines = [a.mockType, a.mockConstructor] := rfl
    rw [uses_implementationTestOutline, Outline.defines_append, hdefines, defines_package]
    simp +contextual [or_imp]
  typed := by
    have hfunctions : Outline.functions (a.mockOutline ++ a.package) =
        ⟨a.mockConstructor, [], some (.own a.mockType)⟩ :: a.package.functions := by
      rw [Outline.functions_append]
      rfl
    have hrun : a.runSignature ∈ a.package.functions := by
      rw [package, Outline.functions_append, functions_implementationOutline]
      simp
    have hinterface : a.utilsType ∈ Outline.interfaces (a.mockOutline ++ a.package) := by
      have hutils : a.utilsType ∈ a.implementationOutline.interfaces := .head _
      rw [package, Outline.interfaces_append, Outline.interfaces_append]
      simp [hutils]
    rw [hfunctions]
    refine ⟨_, .head _, .of_nil _ _, _, rfl, ?_⟩
    refine ⟨_, .tail _ hrun, a.testCall_fits ?_ ?_ hinterface, _, rfl, ?_⟩
    · simp
    · simp
    refine ⟨_, .head _, .of_nil _ _, _, rfl, ?_⟩
    refine ⟨_, .tail _ hrun, a.testCall_fits ?_ ?_ hinterface, _, rfl, trivial⟩
    · simp
    · simp

end Assembly

-- The file can be filled, and has the lines of the outline.
def SourceFile.Shows (file : SourceFile) (a : Assembly) (outline : Outline) : Prop :=
  ∃ text, file.content a = .ok text ∧ HasLines outline.lines text

theorem SourceFile.Shows.of_yields {file : SourceFile} {outline : Outline} (hfile : file ∈ all)
    (h : Template.Yields file.table (.ofRecord a.toValue) file.template outline.lines) :
    file.Shows a outline := by
  obtain ⟨text, htext⟩ := content_ok hfile a
  exact ⟨text, htext, h text (Template.fill_ok_iff.mp htext)⟩

-- Each built resource of the step has a variable, and a definition that begins with the type of the
-- variable.
def Resource.HasStruct (stepName : String) (r : Resource) (o : Output) : Prop :=
  (r.struct stepName).name = o.typeName ∧ ∃ rest, o.definition = (r.struct stepName).text ++ rest

structure Step.SourcesFit (step : Step) (a : Assembly) : Prop where
  step_eq : a.step = step
  resources : a.resourceVariables =
    step.built.map fun r => ⟨r.name, .own (Resource.typeName step.name r.name)⟩
  structs : List.Forall₂ (Resource.HasStruct step.name) step.built a.outputs
  definitions : ∃ text, SourceFile.command.content a = .ok text ∧
    InOrder (a.outputs.map Output.definition) text
  command : SourceFile.command.Shows a a.commandOutline
  commandTest : SourceFile.commandTest.Shows a a.commandTestOutline
  implementation : SourceFile.implementation.Shows a a.implementationOutline
  implementationTest : SourceFile.implementationTest.Shows a a.implementationTestOutline
  registry : ∀ steps, ∃ text, Template.fill Registry.fileName .empty Registry.template
    (Registry.record steps) = .ok text ∧ HasLines (Outline.lines (steps.map Registry.entry)) text
  command_resolves : a.commandOutline.Resolves a.package
  commandTest_resolves : a.commandTestOutline.Resolves a.commandOutline
  implementation_resolves : a.implementationOutline.Resolves a.package
  implementationTest_resolves : a.implementationTestOutline.Resolves (a.mockOutline ++ a.package)
  entry_resolves : Outline.Resolves [Registry.entry step.name] a.commandOutline

theorem Resource.Builds.hasStruct {stepName : String} {r : Resource} {o : Output}
    (h : r.Builds stepName o) : r.HasStruct stepName o := by
  refine ⟨?_, Resource.exists_definition_eq h⟩
  rw [Resource.struct_name]
  cases h <;> rfl

theorem Resource.HasStruct.exists_definition_eq {stepName : String} {r : Resource} {o : Output}
    (h : r.HasStruct stepName o) :
    ∃ rest, o.definition = "type " ++ (o.typeName ++ (" struct \x7b\n" ++ rest)) := by
  obtain ⟨hname, rest, hdefinition⟩ := h
  refine ⟨Struct.textOf 1 (r.struct stepName).members ++ ("\x7d\n" ++ rest), ?_⟩
  rw [hdefinition, Struct.text, hname]
  simp only [String.append_assoc]

end StepCommand
