import StepCommand.Proofs.Output
import StepCommand.Proofs.Source.Struct
import StepCommand.Proofs.Template.Part

namespace StepCommand

open Source (Struct)
open Source.Struct (Part textOf textOf_eq_join textOf_append)
open Template

variable {stepName : String} {resource : Resource} {output : Output}

namespace Environment

def Variable.part (v : Variable) : Part := .value v.field v.kind

def categoryPart (env : Environment) (category : String) : Part :=
  .group category ((env.inCategory category).map Variable.part)

-- The values at top level stand next to the categories.
def struct (env : Environment) : Struct where
  name := env.typeName
  members := (env.inCategory "").map Variable.part ++ env.categories.map env.categoryPart

def categoryRecord (env : Environment) (category : String) : Value :=
  .object [("name", .text category),
    ("parameters", .list ((env.inCategory category).map Variable.record))]

variable {scope : Scope} (env : Environment) (position : List (String × Value))

theorem fill_part (v : Variable) {depth : Nat} {indentation : String}
    (h : tabs depth = indentation) :
    fillAll .empty [.text indentation, field "field", " ", field "type", "\n"]
      (scope.enter ⟨v.record, position⟩) = .ok (v.part.text depth) := by
  have hname : (field "field").fill .empty (scope.enter ⟨v.record, position⟩) = .ok v.field :=
    fill_field rfl rfl
  have hkind : (field "type").fill .empty (scope.enter ⟨v.record, position⟩) = .ok v.kind :=
    fill_field rfl rfl
  simp only [fillAll_cons, fillAll_nil, fill_text, hname, hkind, Except.ok_bind, ← h,
    Variable.part, Part.text, String.append_empty]

theorem fill_categoryPart (category : String) :
    fillAll .empty [
      "\t", field "name", " struct \x7b\n",
      forEach "parameters" ["\t\t", field "field", " ", field "type", "\n"],
      "\t\x7d\n"] (scope.enter ⟨env.categoryRecord category, position⟩) =
      .ok ((env.categoryPart category).text 1) := by
  have hname : (field "name").fill .empty (scope.enter ⟨env.categoryRecord category, position⟩) =
      .ok category := fill_field rfl rfl
  have hvalues : (forEach "parameters" ["\t\t", field "field", " ", field "type", "\n"]).fill .empty
      (scope.enter ⟨env.categoryRecord category, position⟩) =
      .ok (String.join ((env.inCategory category).map fun v => v.part.text 2)) :=
    fill_forEach rfl fun v _ position => fill_part position v rfl
  have hclosing : "\t\x7d\n" = "\t" ++ "\x7d\n" := by simp
  simp only [fillAll_cons, fillAll_nil, fill_text, hname, hvalues, Except.ok_bind]
  rw [categoryPart, Part.text, textOf_eq_join, List.map_map, tabs_one, hclosing,
    String.append_empty]
  rfl

theorem render_declaration :
    render .empty Source.Environment.declaration env.record = .ok (env.struct.text ++ "\n") := by
  have hname : (field "struct_name").fill .empty (Scope.ofRecord env.record) = .ok env.typeName :=
    fill_field rfl rfl
  have htop : (forEach "uncategorized" ["\t", field "field", " ", field "type", "\n"]).fill .empty
      (Scope.ofRecord env.record) =
      .ok (String.join ((env.inCategory "").map fun v => v.part.text 1)) :=
    fill_forEach rfl fun v _ position => fill_part position v rfl
  have hcategories : (forEach "categories" [
      "\t", field "name", " struct \x7b\n",
      forEach "parameters" ["\t\t", field "field", " ", field "type", "\n"],
      "\t\x7d\n"]).fill .empty (Scope.ofRecord env.record) =
      .ok (String.join (env.categories.map fun category => (env.categoryPart category).text 1)) :=
    fill_forEach rfl fun category _ position => fill_categoryPart env position category
  have hclosing : "\x7d\n\n" = "\x7d\n" ++ "\n" := by simp
  rw [render, Source.Environment.declaration]
  simp only [fillAll_cons, fillAll_nil, fill_text, hname, htop, hcategories, Except.ok_bind]
  rw [struct, Struct.text, textOf_append, textOf_eq_join, textOf_eq_join, List.map_map,
    List.map_map, hclosing]
  simp only [String.append_assoc, String.append_empty]
  rfl

-- The type comes first, then the method that stores it.
theorem exists_definition_eq {definition : String} (h : env.definition = .ok definition) :
    ∃ storing, render .empty Source.Environment.storing env.record = .ok storing ∧
      definition = env.struct.text ++ ("\n" ++ storing) := by
  have hrender := (definition_ok_iff.mp h).2
  rw [Source.Environment.template, render_append, render_declaration, Except.ok_bind] at hrender
  obtain ⟨storing, hstoring, hjoined⟩ := Except.bind_ok_iff.mp hrender
  exact ⟨storing, hstoring, by rw [← Except.ok.inj hjoined, String.append_assoc]⟩

end Environment

namespace Metric

def fieldPart (f : Field) : Part := .value (Name.exported f.name) f.kind

def tagPart (tag : String) : Part := .value (Name.exported tag) "string"

def Measurement.part (m : Measurement) : Part :=
  .group m.name [.group "fields" (m.fields.map fieldPart), .group "tags" (m.tags.map tagPart)]

def struct (metric : Metric) : Struct where
  name := metric.typeName
  members := metric.measurements.map Measurement.part

variable {scope : Scope} (metric : Metric) (position : List (String × Value))

theorem fill_fieldPart (f : Field) :
    fillAll .empty ["\t\t\t", field "field", " ", field "type", "\n"]
      (scope.enter ⟨memberRecord f.name f.kind, position⟩) = .ok ((fieldPart f).text 3) := by
  have hname : (field "field").fill .empty (scope.enter ⟨memberRecord f.name f.kind, position⟩) =
      .ok (Name.exported f.name) := fill_field rfl rfl
  have hkind : (field "type").fill .empty (scope.enter ⟨memberRecord f.name f.kind, position⟩) =
      .ok f.kind := fill_field rfl rfl
  simp only [fillAll_cons, fillAll_nil, fill_text, hname, hkind, Except.ok_bind, fieldPart,
    Part.text, tabs_three, String.append_empty]

theorem fill_tagPart (tag : String) :
    fillAll .empty ["\t\t\t", field "field", " string\n"]
      (scope.enter ⟨memberRecord tag "string", position⟩) = .ok ((tagPart tag).text 3) := by
  have hname : (field "field").fill .empty (scope.enter ⟨memberRecord tag "string", position⟩) =
      .ok (Name.exported tag) := fill_field rfl rfl
  have htype : " string\n" = " " ++ ("string" ++ "\n") := by simp
  simp only [fillAll_cons, fillAll_nil, fill_text, hname, Except.ok_bind]
  rw [tagPart, Part.text, tabs_three, htype, String.append_empty]

theorem fill_measurementPart (m : Measurement) :
    fillAll .empty [
      "\t", field "name", " struct \x7b\n",
      block [line 2 r#"fields struct {"#],
      forEach "fields" ["\t\t\t", field "field", " ", field "type", "\n"],
      block [
        line 2 r#"}"#,
        line 2 r#"tags struct {"#],
      forEach "tags" ["\t\t\t", field "field", " string\n"],
      block [
        line 2 r#"}"#,
        line 1 r#"}"#]] (scope.enter ⟨m.record, position⟩) = .ok (m.part.text 1) := by
  have hname : (field "name").fill .empty (scope.enter ⟨m.record, position⟩) = .ok m.name :=
    fill_field rfl rfl
  have hfields : (forEach "fields" ["\t\t\t", field "field", " ", field "type", "\n"]).fill .empty
      (scope.enter ⟨m.record, position⟩) =
      .ok (String.join (m.fields.map fun f => (fieldPart f).text 3)) :=
    fill_forEach rfl fun f _ position => fill_fieldPart position f
  have htags : (forEach "tags" ["\t\t\t", field "field", " string\n"]).fill .empty
      (scope.enter ⟨m.record, position⟩) =
      .ok (String.join (m.tags.map fun tag => (tagPart tag).text 3)) :=
    fill_forEach rfl fun tag _ position => fill_tagPart position tag
  have hopening : block [line 2 r#"fields struct {"#] =
      .text ("\t\t" ++ ("fields" ++ " struct \x7b\n")) := by
    simp [block, line, tabs_two]
  have hbetween : block [line 2 r#"}"#, line 2 r#"tags struct {"#] =
      .text (("\t\t" ++ "\x7d\n") ++ ("\t\t" ++ ("tags" ++ " struct \x7b\n"))) := by
    simp [block, line, tabs_two]
  have hclosing : block [line 2 r#"}"#, line 1 r#"}"#] =
      .text (("\t\t" ++ "\x7d\n") ++ ("\t" ++ "\x7d\n")) := by
    simp [block, line, tabs_one, tabs_two]
  simp only [fillAll_cons, fillAll_nil, hname, hfields, htags, hopening, hbetween, hclosing,
    fill_text, Except.ok_bind]
  simp only [Measurement.part, Part.text, textOf, Nat.reduceAdd, textOf_eq_join 3, List.map_map,
    Function.comp_def, tabs_one, tabs_two, String.append_assoc, String.append_empty]

theorem render_declaration :
    render .empty Source.Metric.declaration metric.record = .ok (metric.struct.text ++ "\n") := by
  have hname : (field "struct_name").fill .empty (Scope.ofRecord metric.record) =
      .ok metric.typeName := fill_field rfl rfl
  have hmeasurements : ∀ part : Template, (∀ m ∈ metric.measurements, ∀ position,
      fillAll .empty part ((Scope.ofRecord metric.record).enter ⟨m.record, position⟩) =
        .ok (m.part.text 1)) →
      (forEach "measurements" part).fill .empty (Scope.ofRecord metric.record) =
        .ok (String.join (metric.measurements.map fun m => m.part.text 1)) :=
    fun part hpart => fill_forEach rfl hpart
  have hclosing : "\x7d\n\n" = "\x7d\n" ++ "\n" := by simp
  rw [render, Source.Metric.declaration, fillAll_cons, fillAll_cons, fillAll_cons, fillAll_cons,
    fillAll_cons, hmeasurements _ fun m _ position => fill_measurementPart position m]
  simp only [fillAll_nil, fill_text, hname, Except.ok_bind]
  rw [struct, Struct.text, textOf_eq_join, List.map_map, hclosing]
  simp only [String.append_assoc, String.append_empty]
  rfl

theorem exists_definition_eq {definition : String} (h : metric.definition = .ok definition) :
    ∃ storing, render .empty Source.Metric.storing metric.record = .ok storing ∧
      definition = metric.struct.text ++ ("\n" ++ storing) := by
  have hrender := (definition_ok_iff.mp h).2
  rw [Source.Metric.template, render_append, render_declaration, Except.ok_bind] at hrender
  obtain ⟨storing, hstoring, hjoined⟩ := Except.bind_ok_iff.mp hrender
  exact ⟨storing, hstoring, by rw [← Except.ok.inj hjoined, String.append_assoc]⟩

end Metric

def Resource.struct (stepName : String) (r : Resource) : Struct :=
  match Kind.ofTag? r.kind with
  | some .environment => (Environment.ofResource stepName r).struct
  | some .metric => (Metric.ofResource stepName r).struct
  | none => ⟨typeName stepName r.name, []⟩

theorem Resource.struct_name (stepName : String) (r : Resource) :
    (r.struct stepName).name = typeName stepName r.name := by
  unfold struct
  split
  next => rw [Environment.ofResource_eq, Environment.struct, Environment.typeName]
  next => rfl
  next => rfl

theorem Resource.exists_definition_eq (h : resource.Builds stepName output) :
    ∃ rest, output.definition = (resource.struct stepName).text ++ rest := by
  unfold struct
  cases h with
  | environment hkind hdefinition =>
      obtain ⟨storing, _, heq⟩ := Environment.exists_definition_eq _ hdefinition
      rw [hkind]
      exact ⟨_, heq⟩
  | metric hkind hdefinition =>
      obtain ⟨storing, _, heq⟩ := Metric.exists_definition_eq _ hdefinition
      rw [hkind]
      exact ⟨_, heq⟩

end StepCommand
