import StepCommand.Proofs.Source.Outline.Implementation

namespace StepCommand

open Source.Implementation (fill_outputType fill_stepName fill_title)
open Template

variable (a : Assembly)

namespace Source.ImplementationTest

def mockHead : Template := ["type ", field "step_name", "MockUtils struct \x7b\n"]

def constructorLine : Template := [
  "func new", apply "title" "step_name", "TestsUtils() ", field "step_name", "MockUtils \x7b\n"]

def mockLine : Template := ["\tutils := ", field "step_name", "MockUtils\x7b\n"]

def functionLine : Template := ["func TestRun", apply "title" "step_name", "(t *testing.T) \x7b\n"]

def configLine : Template := ["\t\tconfig := ", field "step_name", "Options\x7b\x7d\n\n"]

def utilsLine : Template := ["\t\tutils := new", apply "title" "step_name", "TestsUtils()\n"]

def callLine : Template := [
  "\t\terr := run", apply "title" "step_name", "(&config, nil, utils",
  forEach "output_resources" [", &", field "object_name", "\x7b\x7d"], ")\n\n"]

def afterMockHead : Template := mock.drop (1 + mockHead.length)

theorem template_eq : template = mock ++ (opening ++ ((setUp ++ (happyPath ++ call)) ++
    (betweenPaths ++ ((setUp ++ (noFile ++ call)) ++ closing)))) :=
  rfl

theorem mock_eq : mock = mock.take 1 ++ (mockHead ++ (afterMockHead.take 1 ++ (constructorLine ++
    (mockLine ++ afterMockHead.drop (1 + constructorLine.length + mockLine.length))))) :=
  rfl

theorem opening_eq : opening = functionLine ++ opening.drop functionLine.length := rfl

theorem setUp_eq : setUp = setUp.take 1 ++ (configLine ++ utilsLine) := rfl

theorem call_eq : call = call.take 1 ++ (callLine ++ call.drop (1 + callLine.length)) := rfl

theorem yields_mockHead : Yields .implementation (Scope.ofRecord a.toValue) mockHead
    [Line.text ⟨0, .struct a.mockType⟩] := by
  refine .line ?_
  simp only [mockHead, fillAll_cons, fillAll_nil, fill_text, fill_stepName, Except.ok_bind]
  simp [Line.text, Item.text, Assembly.mockType, tabs_zero, String.append_assoc]

theorem yields_constructorLine : Yields .implementation (Scope.ofRecord a.toValue) constructorLine
    [Line.text ⟨0, .function ⟨a.mockConstructor, [], some (.own a.mockType)⟩⟩] := by
  have hopening : ∀ s : String, "func new" ++ s = "func " ++ ("new" ++ s) :=
    fun s => by simp [← String.append_assoc]
  have hresult : ∀ s : String,
      "TestsUtils() " ++ s = "TestsUtils" ++ ("(" ++ ("" ++ (")" ++ (" " ++ s)))) :=
    fun s => by simp [← String.append_assoc]
  have hclosing : "MockUtils \x7b\n" = "MockUtils" ++ (" \x7b" ++ "\n") := by simp
  refine .line ?_
  simp only [constructorLine, fillAll_cons, fillAll_nil, fill_text, fill_stepName, fill_title,
    Except.ok_bind, hopening, hresult, hclosing]
  simp only [Line.text, Item.text, Signature.text, TypeName.text, Assembly.mockConstructor,
    Assembly.mockType, tabs_zero, List.map_nil, String.intercalate_nil, Option.elim_some,
    String.append_assoc, String.append_empty, String.empty_append]

theorem yields_mockLine : Yields .implementation (Scope.ofRecord a.toValue) mockLine
    [Line.text ⟨1, .opened ⟨"utils", .own a.mockType⟩⟩] := by
  have hopening : ∀ s : String, "\tutils := " ++ s = "\t" ++ ("utils" ++ (" := " ++ s)) :=
    fun s => by simp [← String.append_assoc]
  refine .line ?_
  simp only [mockLine, fillAll_cons, fillAll_nil, fill_text, fill_stepName, Except.ok_bind,
    hopening]
  simp [Line.text, Item.text, TypeName.text, Assembly.mockType, tabs_one, String.append_assoc]

theorem yields_functionLine : Yields .implementation (Scope.ofRecord a.toValue) functionLine
    [Line.text ⟨0, .function ⟨"TestRun" ++ a.title, [⟨"t", .pointer (.foreign "testing.T")⟩],
      none⟩⟩] := by
  have hopening : ∀ s : String, "func TestRun" ++ s = "func " ++ ("TestRun" ++ s) :=
    fun s => by simp [← String.append_assoc]
  refine .line ?_
  simp only [functionLine, fillAll_cons, fillAll_nil, fill_text, fill_title, Except.ok_bind,
    hopening]
  simp [Line.text, Item.text, Signature.text, Variable.text, TypeName.text, tabs_zero,
    String.append_assoc]

theorem yields_configLine : Yields .implementation (Scope.ofRecord a.toValue) configLine
    [Line.text ⟨2, .empty ⟨"config", .own a.optionsType⟩⟩] := by
  have hopening : ∀ s : String, "\t\tconfig := " ++ s = "\t\t" ++ ("config" ++ (" := " ++ s)) :=
    fun s => by simp [← String.append_assoc]
  refine .line_blank ?_
  simp only [configLine, fillAll_cons, fillAll_nil, fill_text, fill_stepName, Except.ok_bind,
    hopening]
  simp [Line.text, Item.text, TypeName.text, Assembly.optionsType, tabs_two, String.append_assoc]

theorem yields_utilsLine : Yields .implementation (Scope.ofRecord a.toValue) utilsLine
    [Line.text ⟨2, .result "utils" ⟨a.mockConstructor, []⟩⟩] := by
  have hopening : ∀ s : String,
      "\t\tutils := new" ++ s = "\t\t" ++ ("utils" ++ (" := " ++ ("new" ++ s))) :=
    fun s => by simp [← String.append_assoc]
  refine .line ?_
  simp only [utilsLine, fillAll_cons, fillAll_nil, fill_text, fill_title, Except.ok_bind, hopening]
  simp [Line.text, Item.text, Call.text, Assembly.mockConstructor, tabs_two, String.append_assoc]

theorem yields_callLine : Yields .implementation (Scope.ofRecord a.toValue) callLine
    [Line.text ⟨2, .result "err" a.testCall⟩] := by
  have hopening : ∀ s : String,
      "\t\terr := run" ++ s = "\t\t" ++ ("err" ++ (" := " ++ ("run" ++ s))) :=
    fun s => by simp [← String.append_assoc]
  have harguments : ∀ s : String, "(&config, nil, utils" ++ s =
      "(" ++ ("&" ++ ("config" ++ (", " ++ ("nil" ++ (", " ++ ("utils" ++ s)))))) :=
    fun s => by simp [← String.append_assoc]
  have hclosing : ")\n\n" = ")" ++ "\n\n" := by simp
  have hempty : ∀ s : String, ", &" ++ s = ", " ++ ("&" ++ s) :=
    fun s => by simp [← String.append_assoc]
  have hresources : (forEach "output_resources" [", &", field "object_name", "\x7b\x7d"]).fill
      .implementation (Scope.ofRecord a.toValue) =
      .ok (String.join (a.outputs.map fun o =>
        ", " ++ ("&" ++ (o.typeName ++ "\x7b\x7d")))) := by
    refine fill_forEach rfl fun o _ position => ?_
    simp only [fillAll_cons, fillAll_nil, fill_text, fill_outputType, Except.ok_bind,
      String.append_empty, hempty]
  refine .line_blank ?_
  simp only [callLine, fillAll_cons, fillAll_nil, fill_text, fill_title, hresources,
    Except.ok_bind, hopening, harguments, hclosing]
  simp only [Line.text, Item.text, Call.text, Argument.text, Assembly.testCall, Assembly.runName,
    Assembly.typeNames, intercalate_cons, List.map_cons, List.map_map, Function.comp_def,
    String.join_cons, tabs_two, String.append_assoc, String.append_empty]

-- Both cases are set up and call the function alike.
theorem yields_case {between : Template}
    (h : Yields .implementation (Scope.ofRecord a.toValue) between []) :
    Yields .implementation (Scope.ofRecord a.toValue) (setUp ++ (between ++ call))
      a.caseOutline.lines := by
  have hinit : Yields .implementation (Scope.ofRecord a.toValue) (setUp.take 1) [] :=
    .skip rfl (.join rfl (endsLine_line _ _))
  have htest : Yields .implementation (Scope.ofRecord a.toValue) (call.take 1) [] :=
    .skip rfl (.join rfl (endsLine_line _ _))
  have hassert : Yields .implementation (Scope.ofRecord a.toValue)
      (call.drop (1 + callLine.length)) [] := .skip rfl (.join rfl (endsLine_line _ _))
  rw [setUp_eq, call_eq]
  exact (hinit.append ((yields_configLine a).append (yields_utilsLine a))).append
    (h.append (htest.append ((yields_callLine a).append hassert)))

theorem yields_template : Yields .implementation (Scope.ofRecord a.toValue) template
    a.implementationTestOutline.lines := by
  have himports : Yields .implementation (Scope.ofRecord a.toValue) (mock.take 1) [] :=
    .skip rfl (.join rfl (endsLine_line _ _))
  have hembedded : Yields .implementation (Scope.ofRecord a.toValue) (afterMockHead.take 1) [] :=
    .skip rfl (.join rfl (endsLine_line _ _))
  have hreturn : Yields .implementation (Scope.ofRecord a.toValue)
      (afterMockHead.drop (1 + constructorLine.length + mockLine.length)) [] :=
    .skip rfl (.join rfl (endsLine_line _ _))
  have hparallel : Yields .implementation (Scope.ofRecord a.toValue)
      (opening.drop functionLine.length) [] := .skip rfl (.join rfl (endsLine_line _ _))
  have hhappy : Yields .implementation (Scope.ofRecord a.toValue) happyPath [] :=
    .skip rfl (.join rfl (endsLine_line _ _))
  have hbetween : Yields .implementation (Scope.ofRecord a.toValue) betweenPaths [] :=
    .skip rfl (.join rfl (endsLine_line _ _))
  have hnoFile : Yields .implementation (Scope.ofRecord a.toValue) noFile [] :=
    .skip rfl ⟨"", by simp⟩
  have hclosing : Yields .implementation (Scope.ofRecord a.toValue) closing [] :=
    .skip rfl (.join rfl (endsLine_line _ _))
  have hmock := himports.append ((yields_mockHead a).append (hembedded.append
    ((yields_constructorLine a).append ((yields_mockLine a).append hreturn))))
  have hopening := (yields_functionLine a).append hparallel
  have hall := hmock.append (hopening.append ((yields_case a hhappy).append
    (hbetween.append ((yields_case a hnoFile).append hclosing))))
  rw [template_eq, mock_eq, opening_eq]
  exact hall

end Source.ImplementationTest

end StepCommand
