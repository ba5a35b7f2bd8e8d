import StepCommand.Generator
import StepCommand.Proofs.Template.Fit

namespace StepCommand

open Template (Shape Fits)
open Template.Shape (admits_list_map)

theorem Value.ofTexts_admits (texts : List String) :
    (Shape.list .text).Admits (Value.ofTexts texts) :=
  admits_list_map Shape.admits_text texts

def Alias.shape : Shape := .record [("name", .text), ("deprecated", .any)]

theorem Alias.shape_admits (a : Alias) : shape.Admits a.toValue := by
  simp [shape, toValue, List.lookup_cons]

-- What may be absent is there as an empty value.
def Reference.shape : Shape :=
  .record [("name", .text), ("param", .any), ("paths", .list .text), ("type", .any)]

theorem Reference.shape_admits (r : Reference) : shape.Admits r.toValue := by
  simp [shape, toValue, List.lookup_cons, Value.ofTexts_admits]

def NamedValue.shape : Shape := .record [("name", .text), ("value", .text)]

theorem NamedValue.shape_admits (n : NamedValue) : shape.Admits n.toValue := by
  simp [shape, toValue, List.lookup_cons]

def Condition.shape : Shape :=
  .record [("conditionRef", .text), ("params", .list NamedValue.shape)]

theorem Condition.shape_admits (c : Condition) : shape.Admits c.toValue := by
  simp [shape, toValue, List.lookup_cons,
    admits_list_map NamedValue.shape_admits]

def Container.shape : Shape :=
  .record [("name", .text), ("image", .text), ("env", .list NamedValue.shape),
    ("workingDir", .text), ("options", .list NamedValue.shape),
    ("conditions", .list Condition.shape)]

theorem Container.shape_admits (c : Container) : shape.Admits c.toValue := by
  simp [shape, toValue, List.lookup_cons,
    admits_list_map NamedValue.shape_admits, admits_list_map Condition.shape_admits]

def Member.shape : Shape := .record [("name", .text)]

theorem Member.shape_admits (m : Member) : shape.Admits m.toValue := by
  simp [shape, toValue]

def Resource.Entry.shape : Shape :=
  .record [("name", .text), ("fields", .list Member.shape), ("tags", .list Member.shape)]

theorem Resource.Entry.shape_admits (e : Resource.Entry) : shape.Admits e.toValue := by
  simp [shape, toValue, List.lookup_cons, admits_list_map Member.shape_admits]

def Resource.shape : Shape :=
  .record [("name", .text), ("type", .text), ("params", .list Resource.Entry.shape)]

theorem Resource.shape_admits (r : Resource) : shape.Admits r.toValue := by
  simp [shape, toValue, List.lookup_cons,
    admits_list_map Resource.Entry.shape_admits]

def Output.shape : Shape := .record [("name", .text), ("object_name", .text), ("def", .text)]

theorem Output.shape_admits (o : Output) : shape.Admits o.toValue := by
  simp [shape, toValue, List.lookup_cons]

-- The type is a tag, so that the function for setters takes it.
def TypedParameter.shape : Shape :=
  .record [("name", .text), ("type", .tag), ("go_type", .text), ("default", .text),
    ("description", .text), ("mandatory", .any), ("scope", .list .text),
    ("aliases", .list Alias.shape), ("resource_ref", .list Reference.shape)]

theorem TypedParameter.shape_admits (p : TypedParameter) : shape.Admits p.toValue := by
  simp [shape, toValue, List.lookup_cons, Value.ofTexts_admits,
    admits_list_map Alias.shape_admits, admits_list_map Reference.shape_admits]

def Assembly.shape : Shape :=
  .record [("step_name", .text), ("cobra_cmd_func_name", .text), ("create_cmd_var", .text),
    ("flags_func", .text), ("short", .text), ("long", .text), ("export_prefix", .text),
    ("qualifier", .text), ("parameters", .list TypedParameter.shape),
    ("declared_parameters", .list TypedParameter.shape), ("aliases", .list Alias.shape),
    ("secrets", .list .text), ("os_import", .any), ("containers", .list Container.shape),
    ("sidecars", .list Container.shape), ("outputs", .list Resource.shape),
    ("output_resources", .list Output.shape)]

theorem Assembly.shape_admits (a : Assembly) : shape.Admits a.toValue := by
  simp [shape, toValue, List.lookup_cons, Value.ofTexts_admits,
    admits_list_map TypedParameter.shape_admits, admits_list_map Alias.shape_admits,
    admits_list_map Container.shape_admits, admits_list_map Resource.shape_admits,
    admits_list_map Output.shape_admits]

theorem SourceFile.forall_fits :
    ∀ file ∈ all, Fits file.table file.template Assembly.shape := by
  decide +kernel

theorem Source.Command.fits : Fits .step template Assembly.shape :=
  SourceFile.forall_fits .command List.mem_cons_self

def Source.Registry.shape : Shape := .record [("steps", .list .text)]

theorem Source.Registry.shape_admits (steps : List String) : shape.Admits (record steps) := by
  simp [shape, record, admits_list_map Shape.admits_text]

theorem Source.Registry.fits : Fits .empty template shape := by decide +kernel

def Environment.Variable.shape : Shape :=
  .record [("category", .text), ("name", .text), ("field", .text), ("type", .text),
    ("accessor", .text)]

theorem Environment.Variable.shape_admits (v : Environment.Variable) : shape.Admits v.record := by
  simp [shape, record, List.lookup_cons]

def Environment.categoryShape : Shape :=
  .record [("name", .text), ("parameters", .list Variable.shape)]

def Environment.shape : Shape :=
  .record [("struct_name", .text), ("parameters", .list Variable.shape),
    ("uncategorized", .list Variable.shape), ("categories", .list categoryShape)]

theorem Environment.shape_admits (env : Environment) : shape.Admits env.record := by
  have hcategory : ∀ category, categoryShape.Admits (.object [("name", .text category),
      ("parameters", .list ((env.inCategory category).map Variable.record))]) := by
    intro category
    simp [categoryShape, List.lookup_cons,
      admits_list_map Variable.shape_admits]
  simp [shape, record, List.lookup_cons,
    admits_list_map Variable.shape_admits, admits_list_map hcategory]

theorem Source.Environment.fits : Fits .empty template Environment.shape := by decide +kernel

def Metric.memberShape : Shape := .record [("field", .text), ("type", .text)]

theorem Metric.memberShape_admits (name kind : String) :
    memberShape.Admits (memberRecord name kind) := by
  simp [memberShape, memberRecord, List.lookup_cons]

def Metric.Measurement.shape : Shape :=
  .record [("name", .text), ("fields", .list memberShape), ("tags", .list memberShape)]

theorem Metric.Measurement.shape_admits (m : Metric.Measurement) : shape.Admits m.record := by
  simp [shape, record, List.lookup_cons,
    admits_list_map fun field : Metric.Field => memberShape_admits field.name field.kind,
    admits_list_map fun tag => memberShape_admits tag "string"]

def Metric.entryShape : Shape :=
  .record [("measurement", .text), ("val_type", .text), ("name", .text), ("accessor", .text)]

theorem Metric.entryShape_admits (m : Metric.Measurement) {entry : Value}
    (he : entry ∈ m.entries) : entryShape.Admits entry := by
  have hentry : ∀ kind group name, entryShape.Admits (m.entry kind group name) := by
    intro kind group name
    simp [entryShape, Measurement.entry, List.lookup_cons]
  rcases List.mem_append.mp he with hf | ht
  · obtain ⟨field, _, rfl⟩ := List.mem_map.mp hf
    exact hentry ..
  · obtain ⟨tag, _, rfl⟩ := List.mem_map.mp ht
    exact hentry ..

def Metric.shape : Shape :=
  .record [("struct_name", .text), ("measurements", .list Measurement.shape),
    ("entries", .list entryShape)]

theorem Metric.shape_admits (metric : Metric) : shape.Admits metric.record := by
  have hentries : (Shape.list entryShape).Admits
      (.list (metric.measurements.flatMap Measurement.entries)) := by
    refine ⟨_, rfl, ?_⟩
    intro entry he
    obtain ⟨m, _, hm⟩ := List.mem_flatMap.mp he
    exact entryShape_admits m hm
  simp [shape, record, List.lookup_cons,
    admits_list_map Measurement.shape_admits, hentries]

theorem Source.Metric.fits : Fits .empty template Metric.shape := by decide +kernel

end StepCommand
