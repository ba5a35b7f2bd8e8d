import StepCommand.Generator
import StepCommand.Proofs.Source.Outline.Assembly
import StepCommand.Proofs.Template.Line

namespace StepCommand

open Source
open Template
open Text (HasLines)

theorem Template.Helper.apply_title (path : Option String) (s : String) :
    title.apply [⟨path, some (.text s)⟩] = .ok (.text (Name.title s)) :=
  rfl

variable {scope : Scope} (a : Assembly) (o : Output) (position : List (String × Value))

namespace Source.Implementation

def utilitiesHead : Template := ["type ", field "step_name", "Utils interface \x7b\n"]

def bundleHead : Template := ["type ", field "step_name", "UtilsBundle struct \x7b\n"]

def constructorLine : Template := [
  "func new", apply "title" "step_name", "Utils() ", field "step_name", "Utils \x7b\n"]

def bundleLine : Template := ["\tutils := ", field "step_name", "UtilsBundle\x7b\n"]

def stepLine : Template := [
  "func ", field "step_name", "(config ", field "step_name",
  "Options, telemetryData *telemetry.CustomData", resourceParameters, ") \x7b\n"]

def utilsLine : Template := ["\tutils := new", apply "title" "step_name", "Utils()\n\n"]

def callLine : Template := [
  "\terr := run", apply "title" "step_name", "(&config, telemetryData, utils",
  forEach "output_resources" [", ", field "name"], ")\n"]

def runLine : Template := [
  "func run", apply "title" "step_name", "(config *", field "step_name",
  "Options, telemetryData *telemetry.CustomData, utils ", field "step_name", "Utils",
  resourceParameters, ") error \x7b\n"]

-- Comments stand between the first line of the function and the others.
def afterStepLine : Template := stepFunction.drop stepLine.length

def afterUtilsLine : Template := afterStepLine.drop (1 + utilsLine.length)

theorem utilities_eq : utilities = utilitiesHead ++ utilities.drop utilitiesHead.length := rfl

theorem bundle_eq : bundle = bundleHead ++ bundle.drop bundleHead.length := rfl

theorem bundleConstructor_eq : bundleConstructor = constructorLine ++ (bundleLine ++
    bundleConstructor.drop (constructorLine.length + bundleLine.length)) :=
  rfl

theorem stepFunction_eq : stepFunction = stepLine ++ (afterStepLine.take 1 ++ (utilsLine ++
    (afterUtilsLine.take 1 ++ (callLine ++ afterUtilsLine.drop (1 + callLine.length))))) :=
  rfl

theorem runFunction_eq : runFunction = runLine ++ runFunction.drop runLine.length := rfl

theorem fill_stepName : (field "step_name").fill .implementation (Scope.ofRecord a.toValue) =
    .ok a.step.name :=
  fill_field rfl rfl

theorem fill_title : (apply "title" "step_name").fill .implementation (Scope.ofRecord a.toValue) =
    .ok a.title :=
  fill_apply rfl rfl (Helper.apply_title _ _)

theorem fill_outputName :
    (field "name").fill .implementation (scope.enter ⟨o.toValue, position⟩) = .ok o.name :=
  fill_field rfl rfl

theorem fill_outputType :
    (field "object_name").fill .implementation (scope.enter ⟨o.toValue, position⟩) =
      .ok o.typeName :=
  fill_field rfl rfl

theorem fill_resourceParameters :
    resourceParameters.fill .implementation (Scope.ofRecord a.toValue) =
      .ok (String.join ((a.resourceVariables.map Variable.pointed).map fun v =>
        ", " ++ v.text)) := by
  have hpointer : " *" = " " ++ "*" := by simp
  rw [Assembly.resourceVariables, List.map_map, List.map_map]
  refine fill_forEach rfl fun o _ position => ?_
  simp only [fillAll_cons, fillAll_nil, fill_text, fill_outputName, fill_outputType,
    Except.ok_bind, hpointer]
  simp only [Function.comp, Variable.pointed, Variable.text, TypeName.text, String.append_assoc,
    String.append_empty]

theorem yields_utilitiesHead : Yields .implementation (Scope.ofRecord a.toValue) utilitiesHead
    [Line.text ⟨0, .interface a.utilsType⟩] := by
  refine .line ?_
  simp only [utilitiesHead, fillAll_cons, fillAll_nil, fill_text, fill_stepName, Except.ok_bind]
  simp [Line.text, Item.text, Assembly.utilsType, tabs_zero, String.append_assoc]

theorem yields_bundleHead : Yields .implementation (Scope.ofRecord a.toValue) bundleHead
    [Line.text ⟨0, .struct a.bundleType⟩] := by
  refine .line ?_
  simp only [bundleHead, fillAll_cons, fillAll_nil, fill_text, fill_stepName, Except.ok_bind]
  simp [Line.text, Item.text, Assembly.bundleType, tabs_zero, String.append_assoc]

theorem yields_constructorLine : Yields .implementation (Scope.ofRecord a.toValue) constructorLine
    [Line.text ⟨0, .function ⟨a.utilsConstructor, [], some (.own a.utilsType)⟩⟩] := by
  have hopening : ∀ s : String, "func new" ++ s = "func " ++ ("new" ++ s) :=
    fun s => by simp [← String.append_assoc]
  have hresult : ∀ s : String, "Utils() " ++ s = "Utils" ++ ("(" ++ ("" ++ (")" ++ (" " ++ s)))) :=
    fun s => by simp [← String.append_assoc]
  have hclosing : "Utils \x7b\n" = "Utils" ++ (" \x7b" ++ "\n") := by simp
  refine .line ?_
  simp only [constructorLine, fillAll_cons, fillAll_nil, fill_text, fill_stepName, fill_title,
    Except.ok_bind, hopening, hresult, hclosing]
  simp only [Line.text, Item.text, Signature.text, TypeName.text, Assembly.utilsConstructor,
    Assembly.utilsType, tabs_zero, List.map_nil, String.intercalate_nil, Option.elim_some,
    String.append_assoc, String.append_empty, String.empty_append]

theorem yields_bundleLine : Yields .implementation (Scope.ofRecord a.toValue) bundleLine
    [Line.text ⟨1, .opened ⟨"utils", .own a.bundleType⟩⟩] := by
  have hopening : ∀ s : String, "\tutils := " ++ s = "\t" ++ ("utils" ++ (" := " ++ s)) :=
    fun s => by simp [← String.append_assoc]
  refine .line ?_
  simp only [bundleLine, fillAll_cons, fillAll_nil, fill_text, fill_stepName, Except.ok_bind,
    hopening]
  simp [Line.text, Item.text, TypeName.text, Assembly.bundleType, tabs_one, String.append_assoc]

theorem yields_stepLine : Yields .implementation (Scope.ofRecord a.toValue) stepLine
    [Line.text ⟨0, .function a.stepSignature⟩] := by
  have hconfig : ∀ s : String, "(config " ++ s = "(" ++ ("config" ++ (" " ++ s)) :=
    fun s => by simp [← String.append_assoc]
  have htelemetry : ∀ s : String, "Options, telemetryData *telemetry.CustomData" ++ s =
      "Options" ++ (", " ++ ("telemetryData" ++ (" " ++ ("*" ++ ("telemetry.CustomData" ++ s))))) :=
    fun s => by simp [← String.append_assoc]
  have hclosing : ") \x7b\n" = ")" ++ (" \x7b" ++ "\n") := by simp
  refine .line ?_
  simp only [stepLine, fillAll_cons, fillAll_nil, fill_text, fill_stepName,
    fill_resourceParameters, Except.ok_bind, hconfig, htelemetry, hclosing]
  simp only [Line.text, Item.text, Signature.text, Variable.text, TypeName.text,
    Assembly.stepSignature, Assembly.optionsType, tabs_zero, List.map_cons, List.map_map,
    intercalate_cons, String.join_cons, Option.elim_none, Function.comp_def, String.append_assoc,
    String.append_empty, String.empty_append]

theorem yields_utilsLine : Yields .implementation (Scope.ofRecord a.toValue) utilsLine
    [Line.text ⟨1, .result "utils" ⟨a.utilsConstructor, []⟩⟩] := by
  have hopening : ∀ s : String,
      "\tutils := new" ++ s = "\t" ++ ("utils" ++ (" := " ++ ("new" ++ s))) :=
    fun s => by simp [← String.append_assoc]
  refine .line_blank ?_
  simp only [utilsLine, fillAll_cons, fillAll_nil, fill_text, fill_title, Except.ok_bind, hopening]
  simp [Line.text, Item.text, Call.text, Assembly.utilsConstructor, tabs_one, String.append_assoc]

theorem yields_callLine : Yields .implementation (Scope.ofRecord a.toValue) callLine
    [Line.text ⟨1, .result "err" a.runCall⟩] := by
  have hopening : ∀ s : String,
      "\terr := run" ++ s = "\t" ++ ("err" ++ (" := " ++ ("run" ++ s))) :=
    fun s => by simp [← String.append_assoc]
  have harguments : ∀ s : String, "(&config, telemetryData, utils" ++ s =
      "(" ++ ("&" ++ ("config" ++ (", " ++ ("telemetryData" ++ (", " ++ ("utils" ++ s)))))) :=
    fun s => by simp [← String.append_assoc]
  have hclosing : ")\n" = ")" ++ "\n" := by simp
  have hresources : (forEach "output_resources" [", ", field "name"]).fill .implementation
      (Scope.ofRecord a.toValue) = .ok (String.join (a.outputs.map fun o => ", " ++ o.name)) := by
    refine fill_forEach rfl fun o _ position => ?_
    simp only [fillAll_cons, fillAll_nil, fill_text, fill_outputName, Except.ok_bind,
      String.append_empty]
  refine .line ?_
  simp only [callLine, fillAll_cons, fillAll_nil, fill_text, fill_title, hresources,
    Except.ok_bind, hopening, harguments, hclosing]
  simp only [Line.text, Item.text, Call.text, Argument.text, Assembly.runCall, Assembly.runName,
    Assembly.resourceVariables, intercalate_cons, List.map_cons, List.map_map, Function.comp_def,
    String.join_cons, tabs_one, String.append_assoc, String.append_empty]

theorem yields_runLine : Yields .implementation (Scope.ofRecord a.toValue) runLine
    [Line.text ⟨0, .function a.runSignature⟩] := by
  have hopening : ∀ s : String, "func run" ++ s = "func " ++ ("run" ++ s) :=
    fun s => by simp [← String.append_assoc]
  have hconfig : ∀ s : String, "(config *" ++ s = "(" ++ ("config" ++ (" " ++ ("*" ++ s))) :=
    fun s => by simp [← String.append_assoc]
  have htelemetry : ∀ s : String, "Options, telemetryData *telemetry.CustomData, utils " ++ s =
      "Options" ++ (", " ++ ("telemetryData" ++ (" " ++ ("*" ++ ("telemetry.CustomData" ++
        (", " ++ ("utils" ++ (" " ++ s)))))))) :=
    fun s => by simp [← String.append_assoc]
  have hclosing : ") error \x7b\n" = ")" ++ (" " ++ ("error" ++ (" \x7b" ++ "\n"))) := by simp
  refine .line ?_
  simp only [runLine, fillAll_cons, fillAll_nil, fill_text, fill_stepName, fill_title,
    fill_resourceParameters, Except.ok_bind, hopening, hconfig, htelemetry, hclosing]
  simp only [Line.text, Item.text, Signature.text, Variable.text, TypeName.text,
    Assembly.runSignature, Assembly.runName, Assembly.optionsType, Assembly.utilsType, tabs_zero,
    List.map_cons, List.map_map, intercalate_cons, String.join_cons, Option.elim_some,
    Function.comp_def, String.append_assoc, String.append_empty, String.empty_append]

theorem yields_template :
    Yields .implementation (Scope.ofRecord a.toValue) template a.implementationOutline.lines := by
  have hheader : Yields .implementation (Scope.ofRecord a.toValue) header [] :=
    .skip rfl (.join rfl (endsLine_line _ _))
  have hutilities : Yields .implementation (Scope.ofRecord a.toValue)
      (utilities.drop utilitiesHead.length) [] := .skip rfl (.join rfl (endsLine_line _ _))
  have hbundle : Yields .implementation (Scope.ofRecord a.toValue)
      (bundle.drop bundleHead.length) [] := .skip rfl (.join rfl (endsLine_line _ _))
  have hreturn : Yields .implementation (Scope.ofRecord a.toValue)
      (bundleConstructor.drop (constructorLine.length + bundleLine.length)) [] :=
    .skip rfl (.join rfl (endsLine_line _ _))
  have hbefore : Yields .implementation (Scope.ofRecord a.toValue) (afterStepLine.take 1) [] :=
    .skip rfl (.join rfl (endsLine_line _ _))
  have hbetween : Yields .implementation (Scope.ofRecord a.toValue) (afterUtilsLine.take 1) [] :=
    .skip rfl (.join rfl (endsLine_line _ _))
  have hafter : Yields .implementation (Scope.ofRecord a.toValue)
      (afterUtilsLine.drop (1 + callLine.length)) [] := .skip rfl (.join rfl (endsLine_line _ _))
  have hbody : Yields .implementation (Scope.ofRecord a.toValue)
      (runFunction.drop runLine.length) [] := .skip rfl (.join rfl (endsLine_line _ _))
  have hconstructor :=
    (yields_constructorLine a).append ((yields_bundleLine a).append hreturn)
  have hstep := (yields_stepLine a).append (hbefore.append ((yields_utilsLine a).append
    (hbetween.append ((yields_callLine a).append hafter))))
  rw [template, utilities_eq, bundle_eq, bundleConstructor_eq, stepFunction_eq, runFunction_eq]
  exact ((((hheader.append ((yields_utilitiesHead a).append hutilities)).append
    ((yields_bundleHead a).append hbundle)).append hconstructor).append hstep).append
      ((yields_runLine a).append hbody)

end Source.Implementation

end StepCommand
