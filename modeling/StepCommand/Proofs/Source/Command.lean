import StepCommand.Generator
import StepCommand.Proofs.Source.Shape
import StepCommand.Proofs.Template.Part

namespace StepCommand

namespace Source.Command

structure Field where
  name : String
  type : String
  key : String
deriving DecidableEq, Repr

-- `field` is the name of the field that takes the value of the flag.
structure Flag where
  setter : String
  field : String
  name : String
  default : String
  description : String
deriving DecidableEq, Repr

structure Interface where
  fields : List Field
  flags : List Flag
  required : List String
  secrets : List String
deriving DecidableEq, Repr

def Field.text (f : Field) : String :=
  "\t" ++ f.name ++ " " ++ f.type ++ " `json:\"" ++ f.key ++ ",omitempty\"`\n"

def Flag.text (f : Flag) : String :=
  "\tcmd.Flags()." ++ f.setter ++ "(&stepConfig." ++ f.field ++ ", \"" ++ f.name ++ "\", " ++
    f.default ++ ", \"" ++ f.description ++ "\")\n"

def requiredText (name : String) : String := "\tcmd.MarkFlagRequired(\"" ++ name ++ "\")\n"

def secretText (field : String) : String :=
  "\t\t\tlog.RegisterSecret(stepConfig." ++ field ++ ")\n"

namespace Interface

variable (i : Interface) (stepName function : String)

def optionsText : String :=
  "type " ++ stepName ++ "Options struct \x7b\n" ++ String.join (i.fields.map Field.text) ++
    "\x7d\n"

def secretsText : String := String.join (i.secrets.map secretText)

def flagsText : String :=
  "func " ++ function ++ "(cmd *cobra.Command, stepConfig *" ++ stepName ++ "Options) \x7b\n" ++
    String.join (i.flags.map Flag.text) ++ "\n" ++ String.join (i.required.map requiredText) ++
    "\x7d\n\n"

end Interface

end Source.Command

open Source.Command

namespace TypedParameter

def field (p : TypedParameter) : Field where
  name := Name.exported p.name
  type := p.type.tag
  key := p.name

def flag (p : TypedParameter) : Flag where
  setter := p.type.setter
  field := Name.exported p.name
  name := p.name
  default := p.literal.text
  description := p.declaration.description

end TypedParameter

def Assembly.interface (a : Assembly) : Interface where
  fields := a.parameters.map TypedParameter.field
  flags := a.parameters.map TypedParameter.flag
  required := (a.declared.filter fun p => p.declaration.mandatory).map TypedParameter.name
  secrets := a.secrets.map Name.exported

namespace Source.Command

open Template

def fieldLine : Template := [
  "\t", apply "golangName" "name", " ", field "go_type", " `json:\"", field "name",
  ",omitempty\"`\n"]

def secretLine : Template := ["\t\t\tlog.RegisterSecret(stepConfig.", applyItem "golangName", ")\n"]

def flagLine : Template := [
  "\tcmd.Flags().", apply "flagType" "type", "(&stepConfig.", apply "golangName" "name", ", \"",
  field "name", "\", ", field "default", ", \"", field "description", "\")\n"]

def requiredLine : Template := [
  when "mandatory" ["\tcmd.MarkFlagRequired(\"", field "name", "\")\n"]]

-- What stands between the parts that speak of parameters. The secrets are the thirteenth part of
-- the preparation.
def beforeSecrets : Template := definitions ++ constructorHead ++ preparation.take 12

def afterSecrets : Template := preparation.drop 13 ++ execution ++ constructorTail

theorem template_eq :
    template = imports ++ (options ++ (beforeSecrets ++ ([forEach "secrets" secretLine] ++
      (afterSecrets ++ (flags ++ accessor))))) :=
  rfl

theorem options_eq :
    options = ([
      "type ", field "step_name", "Options struct \x7b\n", forEach "parameters" fieldLine,
      "\x7d\n"] : Template) :=
  rfl

theorem flags_eq :
    flags = ([
      "func ", field "flags_func", "(cmd *cobra.Command, stepConfig *", field "step_name",
      "Options) \x7b\n", forEach "parameters" flagLine, "\n",
      forEach "declared_parameters" requiredLine, "\x7d\n\n"] : Template) :=
  rfl

variable {scope : Scope} (a : Assembly) (p : TypedParameter) (position : List (String × Value))

theorem fill_name : (field "name").fill .step (scope.enter ⟨p.toValue, position⟩) = .ok p.name :=
  fill_field rfl rfl

theorem fill_exportedName :
    (apply "golangName" "name").fill .step (scope.enter ⟨p.toValue, position⟩) =
      .ok (Name.exported p.name) :=
  fill_apply rfl rfl (Helper.apply_exported _ _)

theorem fill_fieldLine :
    fillAll .step fieldLine (scope.enter ⟨p.toValue, position⟩) = .ok p.field.text := by
  have htype : (field "go_type").fill .step (scope.enter ⟨p.toValue, position⟩) =
      .ok p.type.tag := fill_field rfl rfl
  simp only [fieldLine, fillAll_cons, fillAll_nil, fill_text, fill_name, fill_exportedName, htype,
    Except.ok_bind]
  unfold TypedParameter.field Field.text
  simp only [String.append_assoc, String.append_empty]

theorem fill_flagLine :
    fillAll .step flagLine (scope.enter ⟨p.toValue, position⟩) = .ok p.flag.text := by
  have hsetter : (apply "flagType" "type").fill .step (scope.enter ⟨p.toValue, position⟩) =
      .ok p.type.setter := fill_apply rfl rfl (Helper.apply_setter _ _)
  have hdefault : (field "default").fill .step (scope.enter ⟨p.toValue, position⟩) =
      .ok p.literal.text := fill_field rfl rfl
  have hdescription : (field "description").fill .step (scope.enter ⟨p.toValue, position⟩) =
      .ok p.declaration.description := fill_field rfl rfl
  simp only [flagLine, fillAll_cons, fillAll_nil, fill_text, fill_name, fill_exportedName, hsetter,
    hdefault, hdescription, Except.ok_bind]
  unfold TypedParameter.flag Flag.text
  simp only [String.append_assoc, String.append_empty]

theorem fill_requiredLine :
    fillAll .step requiredLine (scope.enter ⟨p.toValue, position⟩) =
      .ok (if p.declaration.mandatory then requiredText p.name else "") := by
  have hmandatory : ∀ part : Template,
      (when "mandatory" part).fill .step (scope.enter ⟨p.toValue, position⟩) =
        if p.declaration.mandatory then fillAll .step part (scope.enter ⟨p.toValue, position⟩)
        else .ok "" := fun part => fill_when rfl
  simp only [requiredLine, fillAll_cons, fillAll_nil, fill_text, fill_name, hmandatory,
    Except.ok_bind]
  cases p.declaration.mandatory with
  | true =>
      unfold requiredText
      simp only [if_true, Except.ok_bind, String.append_assoc, String.append_empty]
  | false => rfl

theorem fill_secretLine (name : String) :
    fillAll .step secretLine (scope.enter ⟨.text name, position⟩) =
      .ok (secretText (Name.exported name)) := by
  have hexported : (applyItem "golangName").fill .step (scope.enter ⟨.text name, position⟩) =
      .ok (Name.exported name) := fill_applyItem rfl (Helper.apply_exported _ _)
  simp only [secretLine, fillAll_cons, fillAll_nil, fill_text, hexported, Except.ok_bind]
  unfold secretText
  simp only [String.append_assoc, String.append_empty]

theorem render_options :
    render .step options a.toValue =
      .ok (a.interface.optionsText a.step.name) := by
  have hlines : (forEach "parameters" fieldLine).fill .step (Scope.ofRecord a.toValue) =
      .ok (String.join (a.parameters.map fun p => p.field.text)) :=
    fill_forEach rfl fun p _ position => fill_fieldLine p position
  have hstep : (field "step_name").fill .step (Scope.ofRecord a.toValue) = .ok a.step.name :=
    fill_field rfl rfl
  rw [render, options_eq]
  simp only [fillAll_cons, fillAll_nil, fill_text, hlines, hstep, Except.ok_bind]
  unfold Interface.optionsText Assembly.interface
  simp only [List.map_map, Function.comp_def, String.append_assoc, String.append_empty]

theorem render_secrets :
    render .step [forEach "secrets" secretLine] a.toValue =
      .ok a.interface.secretsText := by
  have hlines : (forEach "secrets" secretLine).fill .step (Scope.ofRecord a.toValue) =
      .ok (String.join (a.secrets.map fun name => secretText (Name.exported name))) :=
    fill_forEach rfl fun name _ position => fill_secretLine position name
  simp only [render, fillAll_cons, fillAll_nil, hlines, Except.ok_bind]
  unfold Interface.secretsText Assembly.interface
  simp only [List.map_map, Function.comp_def, String.append_empty]

theorem join_map_ite {α : Type} (xs : List α) (q : α → Bool) (text : α → String) :
    String.join (xs.map fun x => if q x then text x else "") =
      String.join ((xs.filter q).map text) := by
  induction xs with
  | nil => rfl
  | cons x rest ih =>
      cases hq : q x with
      | true => simp [hq, ih]
      | false => simp [hq, ih]

theorem render_flags :
    render .step flags a.toValue =
      .ok (a.interface.flagsText a.step.name a.flagsName) := by
  have hlines : (forEach "parameters" flagLine).fill .step (Scope.ofRecord a.toValue) =
      .ok (String.join (a.parameters.map fun p => p.flag.text)) :=
    fill_forEach rfl fun p _ position => fill_flagLine p position
  have hrequired : (forEach "declared_parameters" requiredLine).fill .step
      (Scope.ofRecord a.toValue) =
      .ok (String.join ((a.declared.filter fun p => p.declaration.mandatory).map
        fun p => requiredText p.name)) := by
    rw [← join_map_ite]
    exact fill_forEach rfl fun p _ position => fill_requiredLine p position
  have hstep : (field "step_name").fill .step (Scope.ofRecord a.toValue) = .ok a.step.name :=
    fill_field rfl rfl
  have hfunction : (field "flags_func").fill .step (Scope.ofRecord a.toValue) =
      .ok a.flagsName := fill_field rfl rfl
  rw [render, flags_eq]
  simp only [fillAll_cons, fillAll_nil, fill_text, hlines, hrequired, hstep, hfunction,
    Except.ok_bind]
  unfold Interface.flagsText Assembly.interface
  simp only [List.map_map, Function.comp_def, String.append_assoc, String.append_empty]

-- A command file as it is put together: what it says of the parameters, and between it the parts
-- that are filled from the rest of the record.
inductive Layout (a : Assembly) (i : Interface) : String → Prop where
  | parts {head before after tail : String}
      (head_eq : render .step imports a.toValue = .ok head)
      (before_eq : render .step beforeSecrets a.toValue = .ok before)
      (after_eq : render .step afterSecrets a.toValue = .ok after)
      (tail_eq : render .step accessor a.toValue = .ok tail) :
      Layout a i (head ++ (i.optionsText a.step.name ++ (before ++ (i.secretsText ++
        (after ++ (i.flagsText a.step.name a.flagsName ++ tail))))))

theorem exists_layout : ∃ text, SourceFile.command.content a = .ok text ∧
    Layout a a.interface text := by
  have hall := fits
  rw [template_eq] at hall
  simp only [Fits.append_iff] at hall
  obtain ⟨hhead, _, hbefore, _, hafter, _, htail⟩ := hall
  obtain ⟨head, hhead⟩ := render_of_fits hhead a.shape_admits
  obtain ⟨before, hbefore⟩ := render_of_fits hbefore a.shape_admits
  obtain ⟨after, hafter⟩ := render_of_fits hafter a.shape_admits
  obtain ⟨tail, htail⟩ := render_of_fits htail a.shape_admits
  refine ⟨_, ?_, .parts hhead hbefore hafter htail⟩
  simp only [SourceFile.content, Template.fill, SourceFile.command, template_eq, render_append,
    hhead, render_options, hbefore, render_secrets, hafter, render_flags, htail, Except.ok_bind,
    Except.mapError]

end Source.Command

end StepCommand
