import StepCommand.Proofs.Resource.Struct
import StepCommand.Proofs.Source.Outline.Assembly
import StepCommand.Proofs.Source.Registry
import StepCommand.Proofs.Source.Sections
import StepCommand.Proofs.Template.Line

namespace StepCommand

open Source
open Template
open Text (EndsLine HasLines)

namespace Source.Command

def optionsHead : Template := ["type ", field "step_name", "Options struct \x7b\n"]

def optionsBody : Template := [forEach "parameters" fieldLine, "\x7d\n"]

def comment : Template := [
  "\n// ", field "cobra_cmd_func_name", " ", field "short", "\n"]

def functionLine : Template := ["func ", field "cobra_cmd_func_name", "() *cobra.Command \x7b\n"]

def nameLine : Template := ["\tconst STEP_NAME = \"", field "step_name", "\"\n\n"]

def metadataLine : Template := ["\tmetadata := ", field "step_name", "Metadata()\n"]

def configLine : Template := ["\tvar stepConfig ", field "step_name", "Options\n"]

def startLine : Template := ["\tvar startTime time.Time\n"]

def variableLine : Template := ["\tvar ", field "name", " ", field "object_name", "\n"]

def description : Template := [
  "\n\tvar ", field "create_cmd_var", " = &cobra.Command\x7b\n",
  "\t\tUse:   STEP_NAME,\n",
  "\t\tShort: \"", field "short", "\",\n",
  "\t\tLong:  `", apply "longName" "long", "`,\n"]

def telemetryLines : Template := [
  block [
    line 2 r#"Run: func(_ *cobra.Command, _ []string) {"#,
    line 3 r#"telemetryData := telemetry.CustomData{}"#,
    line 3 r#"telemetryData.ErrorCode = "1""#,
    line 3 r#"handler := func() {"#,
    line 4 r#"config.RemoveVaultSecretFiles()"#]]

def callLine : Template := [
  "\t\t\t", field "step_name", "(stepConfig, &telemetryData",
  forEach "output_resources" [", &", field "name"], ")\n"]

def success : Template := [
  block [
    line 3 r#"telemetryData.ErrorCode = "0""#,
    line 3 r#"log.Entry().Info("SUCCESS")"#,
    line 2 r#"},"#]]

-- The call is the seventh part of the execution.
def handling : Template := (execution.drop 1).take 5

def accessorLine : Template := ["func ", field "step_name", "Metadata() config.StepData \x7b\n"]

theorem options_eq_head : options = optionsHead ++ optionsBody := rfl

theorem constructorHead_eq : constructorHead =
    comment ++ (functionLine ++ (nameLine ++ (metadataLine ++ (configLine ++ (startLine ++
      ([forEach "output_resources" variableLine] ++ description)))))) :=
  rfl

theorem execution_eq : execution = telemetryLines ++ (handling ++ (callLine ++ success)) := rfl

theorem accessor_eq : accessor =
    ([.text "// retrieve step metadata\n"] : Template) ++ (accessorLine ++ accessor.drop 4) :=
  rfl

variable {scope : Scope} (a : Assembly) (o : Output) (position : List (String × Value))

theorem fill_stepName :
    (field "step_name").fill .step (Scope.ofRecord a.toValue) = .ok a.step.name :=
  fill_field rfl rfl

theorem fill_commandName :
    (field "cobra_cmd_func_name").fill .step (Scope.ofRecord a.toValue) = .ok a.commandName :=
  fill_field rfl rfl

theorem fill_outputName :
    (field "name").fill .step (scope.enter ⟨o.toValue, position⟩) = .ok o.name :=
  fill_field rfl rfl

theorem fill_outputType :
    (field "object_name").fill .step (scope.enter ⟨o.toValue, position⟩) = .ok o.typeName :=
  fill_field rfl rfl

theorem yields_optionsHead : Yields .step (Scope.ofRecord a.toValue) optionsHead
    [Line.text ⟨0, .struct a.optionsType⟩] := by
  refine .line ?_
  simp only [optionsHead, fillAll_cons, fillAll_nil, fill_text, fill_stepName, Except.ok_bind]
  simp [Line.text, Item.text, Assembly.optionsType, tabs_zero, String.append_assoc]

theorem yields_functionLine : Yields .step (Scope.ofRecord a.toValue) functionLine
    [Line.text ⟨0, .function ⟨a.commandName, [], some (.pointer (.foreign "cobra.Command"))⟩⟩] := by
  refine .line ?_
  simp only [functionLine, fillAll_cons, fillAll_nil, fill_text, fill_commandName, Except.ok_bind]
  simp [Line.text, Item.text, Signature.text, TypeName.text, tabs_zero, String.append_assoc]

theorem yields_metadataLine : Yields .step (Scope.ofRecord a.toValue) metadataLine
    [Line.text ⟨1, .result "metadata" ⟨a.accessorName, []⟩⟩] := by
  have hopening : ∀ s : String, "\tmetadata := " ++ s = "\t" ++ ("metadata" ++ (" := " ++ s)) :=
    fun s => by simp [← String.append_assoc]
  refine .line ?_
  simp only [metadataLine, fillAll_cons, fillAll_nil, fill_text, fill_stepName, Except.ok_bind,
    hopening]
  simp [Line.text, Item.text, Call.text, Assembly.accessorName, accessorOf, tabs_one,
    String.append_assoc]

theorem yields_configLine : Yields .step (Scope.ofRecord a.toValue) configLine
    [Line.text ⟨1, .declared ⟨"stepConfig", .own a.optionsType⟩⟩] := by
  have hopening : ∀ s : String,
      "\tvar stepConfig " ++ s = "\t" ++ ("var " ++ ("stepConfig" ++ (" " ++ s))) :=
    fun s => by simp [← String.append_assoc]
  refine .line ?_
  simp only [configLine, fillAll_cons, fillAll_nil, fill_text, fill_stepName, Except.ok_bind,
    hopening]
  simp [Line.text, Item.text, Variable.text, TypeName.text, Assembly.optionsType, tabs_one,
    String.append_assoc]

theorem yields_variableLines :
    Yields .step (Scope.ofRecord a.toValue) [forEach "output_resources" variableLine]
      (a.resourceVariables.map fun v => Line.text ⟨1, .declared v⟩) := by
  have hopening : ∀ s : String, "\tvar " ++ s = "\t" ++ ("var " ++ s) :=
    fun s => by simp [← String.append_assoc]
  rw [Assembly.resourceVariables, List.map_map]
  refine .forEach rfl fun o _ position => ?_
  simp only [variableLine, fillAll_cons, fillAll_nil, fill_text, fill_outputName, fill_outputType,
    Except.ok_bind, hopening]
  simp only [Function.comp, Line.text, Item.text, Variable.text, TypeName.text, tabs_one,
    String.append_assoc, String.append_empty]

theorem yields_callLine : Yields .step (Scope.ofRecord a.toValue) callLine
    [Line.text ⟨3, .call a.stepCall⟩] := by
  have hopening : ∀ s : String, "(stepConfig, &telemetryData" ++ s =
      "(" ++ ("stepConfig" ++ (", " ++ ("&" ++ ("telemetryData" ++ s)))) :=
    fun s => by simp [← String.append_assoc]
  have harguments : (forEach "output_resources" [", &", field "name"]).fill .step
      (Scope.ofRecord a.toValue) =
      .ok (String.join (a.outputs.map fun o => ", " ++ ("&" ++ o.name))) := by
    refine fill_forEach rfl fun o _ position => ?_
    simp only [fillAll_cons, fillAll_nil, fill_text, fill_outputName, Except.ok_bind]
    simp [← String.append_assoc]
  have hclosing : ")\n" = ")" ++ "\n" := by simp
  refine .line ?_
  simp only [callLine, fillAll_cons, fillAll_nil, fill_text, fill_stepName, harguments,
    Except.ok_bind, hopening, hclosing]
  simp only [Line.text, Item.text, Call.text, Argument.text, Assembly.stepCall,
    Assembly.resourceVariables, intercalate_cons, List.map_cons, List.map_map, Function.comp_def,
    String.join_cons, tabs_three, String.append_assoc, String.append_empty]

theorem yields_accessorLine : Yields .step (Scope.ofRecord a.toValue) accessorLine
    [Line.text ⟨0, .function ⟨a.accessorName, [], some (.foreign "config.StepData")⟩⟩] := by
  refine .line ?_
  simp only [accessorLine, fillAll_cons, fillAll_nil, fill_text, fill_stepName, Except.ok_bind]
  simp [Line.text, Item.text, Signature.text, TypeName.text, Assembly.accessorName, accessorOf,
    tabs_zero, String.append_assoc]

theorem yields_telemetryLines : Yields .step (Scope.ofRecord a.toValue) telemetryLines
    [Line.text ⟨3, .empty ⟨"telemetryData", .foreign "telemetry.CustomData"⟩⟩] := by
  have hline : Line.text ⟨3, .empty ⟨"telemetryData", .foreign "telemetry.CustomData"⟩⟩ ++ "\n" =
      line 3 r#"telemetryData := telemetry.CustomData{}"# := by
    simp [Line.text, Item.text, TypeName.text, line]
  refine .of_fillAll (s := String.join [
    line 2 r#"Run: func(_ *cobra.Command, _ []string) {"#,
    line 3 r#"telemetryData := telemetry.CustomData{}"#,
    line 3 r#"telemetryData.ErrorCode = "1""#,
    line 3 r#"handler := func() {"#,
    line 4 r#"config.RemoveVaultSecretFiles()"#]) ?_ ?_
  · simp only [telemetryLines, block, fillAll_cons, fillAll_nil, fill_text, Except.ok_bind,
      String.append_empty]
  · refine .join_of_mem (hline ▸ List.mem_of_getElem? (i := 1) rfl) ?_
    simp [endsLine_line]

theorem yields_constructor : Yields .step (Scope.ofRecord a.toValue) constructor
    a.constructorOutline.lines := by
  have hcomment : Yields .step (Scope.ofRecord a.toValue) comment [] :=
    .skip rfl ⟨"", by simp⟩
  have hname : Yields .step (Scope.ofRecord a.toValue) nameLine [] :=
    .skip rfl ⟨"\"\n", by simp⟩
  have hstart : Yields .step (Scope.ofRecord a.toValue) startLine [] :=
    .skip rfl ⟨"\tvar startTime time.Time", by simp⟩
  have hdescription : Yields .step (Scope.ofRecord a.toValue) description [] :=
    .skip rfl ⟨"`,", by simp⟩
  have hpreparation : Yields .step (Scope.ofRecord a.toValue) preparation [] :=
    .skip rfl (.join rfl (endsLine_line _ _))
  have hhandling : Yields .step (Scope.ofRecord a.toValue) handling [] :=
    .skip rfl ⟨"GeneralConfig.NoTelemetry, STEP_NAME)", by simp⟩
  have hsuccess : Yields .step (Scope.ofRecord a.toValue) success [] :=
    .skip rfl (.join rfl (endsLine_line _ _))
  have htail : Yields .step (Scope.ofRecord a.toValue) constructorTail [] :=
    .skip rfl ⟨"\x7d\n", by simp⟩
  have hhead := hcomment.append ((yields_functionLine a).append (hname.append
    ((yields_metadataLine a).append ((yields_configLine a).append (hstart.append
      ((yields_variableLines a).append hdescription))))))
  have hexecution := (yields_telemetryLines a).append (hhandling.append
    ((yields_callLine a).append hsuccess))
  have hall := ((hhead.append hpreparation).append hexecution).append htail
  rw [constructor, constructorHead_eq, execution_eq]
  simpa [Assembly.constructorOutline, Outline.lines, Function.comp_def] using hall

theorem hasLines_definition {o : Output} {rest : String}
    (h : o.definition = "type " ++ (o.typeName ++ (" struct \x7b\n" ++ rest))) :
    HasLines [Line.text ⟨0, .struct o.typeName⟩] ("\n" ++ (o.definition ++ "\n")) := by
  have hbefore : HasLines [] "\n" := .skip ⟨"", by simp⟩
  have hafter : HasLines [] (rest ++ "\n") := .skip ⟨rest, rfl⟩
  have hall := hbefore.append ((HasLines.single (Line.text ⟨0, .struct o.typeName⟩)).append hafter)
  have hclosing : " struct \x7b\n" = " struct \x7b" ++ "\n" := by simp
  simp only [h, hclosing]
  simpa only [Line.text, Item.text, tabs_zero, String.append_assoc, String.empty_append,
    List.nil_append, List.append_nil] using hall

theorem yields_template (h : ∀ o ∈ a.outputs, ∃ rest,
    o.definition = "type " ++ (o.typeName ++ (" struct \x7b\n" ++ rest))) :
    Yields .step (Scope.ofRecord a.toValue) template a.commandOutline.lines := by
  have himports : Yields .step (Scope.ofRecord a.toValue) imports [] :=
    .skip rfl (.join rfl (endsLine_line _ _))
  have hbody : Yields .step (Scope.ofRecord a.toValue) optionsBody [] :=
    .skip rfl ⟨"\x7d", by simp⟩
  have hdefinitions : Yields .step (Scope.ofRecord a.toValue) definitions
      (a.outputs.map fun o => Line.text ⟨0, .struct o.typeName⟩) := by
    refine .of_fillAll (render_definitions a) (.join_single fun o ho => ?_)
    obtain ⟨rest, hrest⟩ := h o ho
    exact hasLines_definition hrest
  have hflags : Yields .step (Scope.ofRecord a.toValue) flags [] :=
    .skip rfl ⟨"\x7d\n", by simp⟩
  have hcomment : Yields .step (Scope.ofRecord a.toValue)
      ([.text "// retrieve step metadata\n"] : Template) [] :=
    .skip rfl ⟨"// retrieve step metadata", by simp⟩
  have hmetadata : Yields .step (Scope.ofRecord a.toValue) (accessor.drop 4) [] :=
    .skip rfl (.join rfl (endsLine_line _ _))
  have hoptions := (yields_optionsHead a).append hbody
  have haccessor := hcomment.append ((yields_accessorLine a).append hmetadata)
  have hall := ((((himports.append hoptions).append hdefinitions).append
    (yields_constructor a)).append hflags).append haccessor
  rw [template, options_eq_head, accessor_eq]
  simpa [Assembly.commandOutline, Assembly.typesOutline, Assembly.typeNames,
    Assembly.accessorOutline, Outline.lines, Function.comp_def] using hall

end Source.Command

namespace Source.CommandTest

def opening : Template := template.take 1

def functionLine : Template := ["func Test", field "cobra_cmd_func_name", "(t *testing.T) \x7b\n"]

def parallel : Template := [block [line 1 r#"t.Parallel()"#, line 0 ""]]

def callLine : Template := ["\ttestCmd := ", field "cobra_cmd_func_name", "()\n\n"]

theorem template_eq :
    template = opening ++ (functionLine ++ (parallel ++ (callLine ++ template.drop 8))) :=
  rfl

variable (a : Assembly)

theorem yields_functionLine : Yields .step (Scope.ofRecord a.toValue) functionLine
    [Line.text ⟨0, .function ⟨"Test" ++ a.commandName, [⟨"t", .pointer (.foreign "testing.T")⟩],
      none⟩⟩] := by
  have hopening : ∀ s : String, "func Test" ++ s = "func " ++ ("Test" ++ s) :=
    fun s => by simp [← String.append_assoc]
  refine .line ?_
  simp only [functionLine, fillAll_cons, fillAll_nil, fill_text, Command.fill_commandName,
    Except.ok_bind, hopening]
  simp [Line.text, Item.text, Signature.text, Variable.text, TypeName.text, tabs_zero,
    String.append_assoc]

theorem yields_callLine : Yields .step (Scope.ofRecord a.toValue) callLine
    [Line.text ⟨1, .result "testCmd" ⟨a.commandName, []⟩⟩] := by
  have hopening : ∀ s : String, "\ttestCmd := " ++ s = "\t" ++ ("testCmd" ++ (" := " ++ s)) :=
    fun s => by simp [← String.append_assoc]
  refine .line_blank ?_
  simp only [callLine, fillAll_cons, fillAll_nil, fill_text, Command.fill_commandName,
    Except.ok_bind, hopening]
  simp [Line.text, Item.text, Call.text, tabs_one, String.append_assoc]

theorem yields_template :
    Yields .step (Scope.ofRecord a.toValue) template a.commandTestOutline.lines := by
  have hopening : Yields .step (Scope.ofRecord a.toValue) opening [] :=
    .skip rfl (.join rfl (endsLine_line _ _))
  have hparallel : Yields .step (Scope.ofRecord a.toValue) parallel [] :=
    .skip rfl (.join rfl (endsLine_line _ _))
  have hclosing : Yields .step (Scope.ofRecord a.toValue) (template.drop 8) [] :=
    .skip rfl (.join rfl (endsLine_line _ _))
  rw [template_eq]
  exact hopening.append ((yields_functionLine a).append (hparallel.append
    ((yields_callLine a).append hclosing)))

end Source.CommandTest

namespace Source.Registry

-- The list has a line for each step.
theorem yields_template (steps : List String) :
    Yields .empty (Scope.ofRecord (record steps)) template (Outline.lines (steps.map entry)) := by
  have hkey : ∀ s : String, "\t\t\"" ++ s = "\t\t" ++ ("\"" ++ s) :=
    fun s => by simp [← String.append_assoc]
  have hcall : "Metadata(),\n" = "Metadata" ++ ("(" ++ ("" ++ (")" ++ ("," ++ "\n")))) := by
    simp
  have hentries : Yields .empty (Scope.ofRecord (record steps))
      [forEach "steps" ["\t\t\"", item, "\": ", item, "Metadata(),\n"]]
      (steps.map fun name => (entry name).text) := by
    refine .forEach rfl fun name _ position => ?_
    have hitem : item.fill .empty ((Scope.ofRecord (record steps)).enter ⟨.text name, position⟩) =
        .ok name := fill_item rfl rfl
    simp only [fillAll_cons, fillAll_nil, fill_text, hitem, Except.ok_bind, hkey, hcall]
    simp only [entry, accessorOf, Line.text, Item.text, Call.text, tabs_two, List.map_nil,
      String.intercalate_nil, String.append_assoc, String.append_empty]
  have hopening : Yields .empty (Scope.ofRecord (record steps)) (template.take 1) [] :=
    .skip rfl (.join rfl (endsLine_line _ _))
  have hclosing : Yields .empty (Scope.ofRecord (record steps)) (template.drop 2) [] :=
    .skip rfl (.join rfl (endsLine_line _ _))
  have hall := hopening.append (hentries.append hclosing)
  rw [List.append_nil, List.nil_append] at hall
  rw [Outline.lines, List.map_map]
  exact hall

end Source.Registry

end StepCommand
