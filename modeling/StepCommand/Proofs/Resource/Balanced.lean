import StepCommand.Proofs.Output
import StepCommand.Proofs.Template.Balanced

namespace StepCommand

open Resource (Named)
open Text (IsBalanced delimiters isBalanced_of_delimiters)

variable {stepName s : String} {resource : Resource} {output : Output}

-- What is exported as an identifier has no brackets either.
theorem Name.isBalanced_of_exported (h : isIdentifier (exported s) = true) : IsBalanced s := by
  refine isBalanced_of_delimiters ?_
  rw [← delimiters_exported, delimiters_of_isIdentifier h]

theorem Name.isBalanced_of_isIdentifier (h : isIdentifier s = true) : IsBalanced s :=
  isBalanced_of_delimiters (delimiters_of_isIdentifier h)

theorem Name.isBalanced_memberType {kind : Option String} (h : ∀ s ∈ kind, IsBalanced s) :
    IsBalanced (memberType kind) := by
  have htext : IsBalanced "string" := by decide
  unfold memberType
  split
  · exact htext
  · split
    · exact htext
    · exact h _ rfl

theorem Value.isBalanced_ofOption (s : Option String) :
    (ofOption s).IsBalanced ↔ ∀ t ∈ s, Text.IsBalanced t := by
  cases s <;> simp [ofOption]

theorem Member.isBalanced_toValue (m : Member) :
    m.toValue.IsBalanced ↔ IsBalanced m.name ∧ ∀ s ∈ m.kind, IsBalanced s := by
  simp +decide [toValue, Value.isBalanced_ofOption]

theorem Resource.Entry.isBalanced_toValue (e : Resource.Entry) :
    e.toValue.IsBalanced ↔ IsBalanced e.name ∧ (∀ s ∈ e.kind, IsBalanced s) ∧
      (∀ m ∈ e.fields, m.toValue.IsBalanced) ∧ ∀ m ∈ e.tags, m.toValue.IsBalanced := by
  simp +decide [toValue, Value.isBalanced_ofOption]

theorem Resource.isBalanced_toValue (r : Resource) :
    r.toValue.IsBalanced ↔ IsBalanced r.name ∧ IsBalanced r.kind ∧
      ∀ e ∈ r.entries, e.toValue.IsBalanced := by
  simp +decide [toValue]

theorem Resource.isBalanced_typeName (hstep : IsBalanced stepName) (h : IsBalanced s) :
    IsBalanced (typeName stepName s) :=
  hstep.append (Name.isBalanced_title h)

namespace Environment

theorem template_isBalanced : Source.Environment.template.IsBalanced := by decide +kernel

structure Variable.IsBalanced (v : Variable) : Prop where
  category : Text.IsBalanced v.category
  name : Text.IsBalanced v.name
  kind : Text.IsBalanced v.kind

theorem Variable.IsBalanced.record {v : Variable} (h : v.IsBalanced) : v.record.IsBalanced := by
  have hfield : Text.IsBalanced v.field := Name.isBalanced_exported h.name
  have hdot : Text.IsBalanced "." := by decide
  have haccessor : Text.IsBalanced v.accessor := by
    unfold accessor
    split
    · exact hfield
    · exact (h.category.append hdot).append hfield
  simp +decide [Variable.record, h.category, h.name, h.kind, hfield, haccessor]

theorem isBalanced_record {env : Environment} (htype : Text.IsBalanced env.typeName)
    (hmembers : ∀ v ∈ env.members, v.IsBalanced)
    (hcategories : ∀ category ∈ env.categories, Text.IsBalanced category) :
    env.record.IsBalanced := by
  have hrecord : ∀ v ∈ env.members, v.record.IsBalanced := fun v hv => (hmembers v hv).record
  have hinside : ∀ category, ∀ v ∈ env.inCategory category, v.record.IsBalanced :=
    fun _ v hv => hrecord v (List.mem_filter.mp hv).1
  have hgroups : (∀ v ∈ env.inCategory "", v.record.IsBalanced) ∧
      ∀ category ∈ env.categories, ∀ v ∈ env.inCategory category, v.record.IsBalanced :=
    ⟨hinside "", fun category _ => hinside category⟩
  simpa +decide +contextual [record, htype, hrecord, hcategories] using hgroups

-- A slash may stand between two brackets that belong together, and separate them. But what stands
-- on either side of it has no brackets if the environment is accepted.
theorem isBalanced_definition {definition : String} (hstep : Text.IsBalanced stepName)
    (hresource : resource.toValue.IsBalanced)
    (h : (ofResource stepName resource).definition = .ok definition) :
    Text.IsBalanced definition := by
  obtain ⟨hcheck, hrender⟩ := definition_ok_iff.mp h
  have hsound := Resource.checkNames_ok_iff.mp hcheck
  obtain ⟨hname, _, hentries⟩ := (Resource.isBalanced_toValue resource).mp hresource
  rw [ofResource_eq] at hsound hrender
  simp only [names, List.forall_mem_append, List.forall_mem_map] at hsound
  obtain ⟨hcategories, hfields⟩ := hsound
  have hcategory : ∀ category ∈ resource.categories, Text.IsBalanced category :=
    fun category hc => Name.isBalanced_of_isIdentifier (hcategories category hc)
  refine Template.isBalanced_render template_isBalanced
    (isBalanced_record (Resource.isBalanced_typeName hstep hname) ?_ hcategory) hrender
  rintro v hv
  obtain ⟨e, he, rfl⟩ := List.mem_map.mp hv
  obtain ⟨_, hkind, _, _⟩ := (Resource.Entry.isBalanced_toValue e).mp (hentries e he)
  exact {
    category := by
      by_cases hempty : e.variable.category = ""
      · rw [hempty]
        exact Text.isBalanced_empty
      · exact hcategory _ (Resource.mem_categories_iff.mpr ⟨hempty, e, he, rfl⟩)
    name := Name.isBalanced_of_exported (hfields e he)
    kind := Name.isBalanced_memberType hkind }

end Environment

namespace Metric

theorem template_isBalanced : Source.Metric.template.IsBalanced := by decide +kernel

theorem isBalanced_memberRecord {name kind : String} (hname : IsBalanced name)
    (hkind : IsBalanced kind) : (memberRecord name kind).IsBalanced := by
  simp +decide [memberRecord, Name.isBalanced_exported hname, hkind]

structure Measurement.IsBalanced (m : Measurement) : Prop where
  name : Text.IsBalanced m.name
  fields : ∀ field ∈ m.fields, Text.IsBalanced field.name ∧ Text.IsBalanced field.kind
  tags : ∀ tag ∈ m.tags, Text.IsBalanced tag

theorem Measurement.IsBalanced.record {m : Measurement} (h : m.IsBalanced) :
    m.record.IsBalanced := by
  have hstring : Text.IsBalanced "string" := by decide
  have hfields : ∀ field ∈ m.fields, (memberRecord field.name field.kind).IsBalanced :=
    fun field hf => isBalanced_memberRecord (h.fields field hf).1 (h.fields field hf).2
  have htags : ∀ tag ∈ m.tags, (memberRecord tag "string").IsBalanced :=
    fun tag ht => isBalanced_memberRecord (h.tags tag ht) hstring
  simp +decide +contextual [Measurement.record, h.name, hfields, htags]

theorem Measurement.IsBalanced.entry {m : Measurement} (h : m.IsBalanced) {kind group name : String}
    (hkind : Text.IsBalanced kind) (hgroup : Text.IsBalanced group)
    (hname : Text.IsBalanced name) : (m.entry kind group name).IsBalanced := by
  have hdot : Text.IsBalanced "." := by decide
  have haccessor : Text.IsBalanced (m.name ++ "." ++ group ++ "." ++ Name.exported name) :=
    (((h.name.append hdot).append hgroup).append hdot).append (Name.isBalanced_exported hname)
  simp +decide [Measurement.entry, h.name, hkind, hname, haccessor]

theorem Measurement.IsBalanced.entries {m : Measurement} (h : m.IsBalanced) :
    ∀ entry ∈ m.entries, entry.IsBalanced := by
  intro entry he
  rcases List.mem_append.mp he with hf | ht
  · obtain ⟨field, hfield, rfl⟩ := List.mem_map.mp hf
    exact h.entry (by decide) (by decide) (h.fields field hfield).1
  · obtain ⟨tag, htag, rfl⟩ := List.mem_map.mp ht
    exact h.entry (by decide) (by decide) (h.tags tag htag)

theorem isBalanced_record {metric : Metric} (htype : Text.IsBalanced metric.typeName)
    (hmeasurements : ∀ m ∈ metric.measurements, m.IsBalanced) : metric.record.IsBalanced := by
  have hrecords : ∀ m ∈ metric.measurements, m.record.IsBalanced :=
    fun m hm => (hmeasurements m hm).record
  have hentries : ∀ entry, ∀ m ∈ metric.measurements, entry ∈ m.entries → entry.IsBalanced :=
    fun entry m hm => (hmeasurements m hm).entries entry
  simpa +decide +contextual [record, htype, hrecords] using hentries

theorem isBalanced_definition {definition : String} (hstep : Text.IsBalanced stepName)
    (hresource : resource.toValue.IsBalanced)
    (h : (ofResource stepName resource).definition = .ok definition) :
    Text.IsBalanced definition := by
  obtain ⟨_, hrender⟩ := definition_ok_iff.mp h
  obtain ⟨hname, _, hentries⟩ := (Resource.isBalanced_toValue resource).mp hresource
  refine Template.isBalanced_render template_isBalanced
    (isBalanced_record (Resource.isBalanced_typeName hstep hname) ?_) hrender
  rintro m hm
  obtain ⟨e, he, rfl⟩ := List.mem_map.mp hm
  obtain ⟨hentry, _, hfields, htags⟩ := (Resource.Entry.isBalanced_toValue e).mp (hentries e he)
  exact {
    name := hentry
    fields := by
      intro field hfield
      obtain ⟨member, hmember, rfl⟩ := List.mem_map.mp hfield
      obtain ⟨hfieldName, hkind⟩ := (Member.isBalanced_toValue member).mp (hfields member hmember)
      exact ⟨hfieldName, Name.isBalanced_memberType hkind⟩
    tags := by
      intro tag htag
      obtain ⟨member, hmember, rfl⟩ := List.mem_map.mp htag
      exact ((Member.isBalanced_toValue member).mp (htags member hmember)).1 }

end Metric

theorem Resource.Builds.isBalanced_toValue (h : resource.Builds stepName output)
    (hstep : IsBalanced stepName) (hresource : resource.toValue.IsBalanced) :
    output.toValue.IsBalanced := by
  obtain ⟨hname, _, _⟩ := (Resource.isBalanced_toValue resource).mp hresource
  have htype : IsBalanced (typeName stepName resource.name) := isBalanced_typeName hstep hname
  have hdefinition : IsBalanced output.definition := by
    cases h with
    | environment _ h => exact Environment.isBalanced_definition hstep hresource h
    | metric _ h => exact Metric.isBalanced_definition hstep hresource h
  cases h <;> simp +decide [Output.toValue, hname, htype, hdefinition]

end StepCommand
