import StepCommand.Proofs.Literal.Interpreted
import StepCommand.Proofs.Name
import StepCommand.Proofs.Output
import StepCommand.Proofs.Template.Place

namespace StepCommand

open Literal (IsPlain)
open Template
open Text (Between)

variable {stepName definition : String} {resource : Resource} {output : Output}

-- A value of an environment goes by its category and its name, and a field or a tag by that of its
-- measurement and its own.
def Resource.stored (r : Resource) : List String :=
  match Kind.ofTag? r.kind with
  | some .environment => r.entries.flatMap fun e => [e.variable.category, e.variable.name]
  | some .metric => r.entries.flatMap fun e =>
      (e.fields ++ e.tags).flatMap fun member => [e.name, member.name]
  | none => []

theorem Source.Environment.placesBetween_template :
    placesBetween "\"" "\"" template = [forEach "parameters" [field "category", field "name"]] := by
  rfl

theorem Source.Metric.placesBetween_template :
    placesBetween "\"" "\"" template = [forEach "entries" [field "measurement", field "name"]] := by
  rfl

theorem Environment.textsOf_places (env : Environment) :
    textsOf .empty (placesBetween "\"" "\"" Source.Environment.template)
      (Scope.ofRecord env.record) = env.members.flatMap fun v => [v.category, v.name] := by
  rw [Source.Environment.placesBetween_template, textsOf_singleton]
  refine texts_forEach rfl fun v _ position => ?_
  have hcategory : (field "category").texts .empty ((Scope.ofRecord env.record).enter
      ⟨v.record, position⟩) = [v.category] := texts_field rfl rfl
  have hname : (field "name").texts .empty ((Scope.ofRecord env.record).enter
      ⟨v.record, position⟩) = [v.name] := texts_field rfl rfl
  simp only [textsOf_cons, textsOf_nil, hcategory, hname]
  rfl

-- A field or a tag of a measurement, as it is stored.
structure Metric.Stored where
  measurement : Measurement
  kind : String
  group : String
  name : String

def Metric.Stored.record (s : Stored) : Value := s.measurement.entry s.kind s.group s.name

def Metric.Measurement.stored (m : Measurement) : List Stored :=
  m.fields.map (fun field => ⟨m, "InfluxField", "fields", field.name⟩) ++
    m.tags.map fun tag => ⟨m, "InfluxTag", "tags", tag⟩

theorem Metric.flatMap_entries (measurements : List Measurement) :
    measurements.flatMap Measurement.entries =
      (measurements.flatMap Measurement.stored).map Stored.record := by
  rw [List.map_flatMap]
  refine congrArg (measurements.flatMap ·) (funext fun m => ?_)
  simp [Measurement.entries, Measurement.stored, Stored.record, Function.comp_def]

theorem Metric.textsOf_places (metric : Metric) :
    textsOf .empty (placesBetween "\"" "\"" Source.Metric.template)
      (Scope.ofRecord metric.record) = (metric.measurements.flatMap Measurement.stored).flatMap
        fun s => [s.measurement.name, s.name] := by
  have hvalue : metric.record.field? "entries" =
      some (.list ((metric.measurements.flatMap Measurement.stored).map Stored.record)) := by
    rw [← flatMap_entries]
    rfl
  rw [Source.Metric.placesBetween_template, textsOf_singleton]
  refine texts_forEach hvalue fun s _ position => ?_
  have hmeasurement : (field "measurement").texts .empty ((Scope.ofRecord metric.record).enter
      ⟨s.record, position⟩) = [s.measurement.name] := texts_field rfl rfl
  have hname : (field "name").texts .empty ((Scope.ofRecord metric.record).enter
      ⟨s.record, position⟩) = [s.name] := texts_field rfl rfl
  simp only [textsOf_cons, textsOf_nil, hmeasurement, hname]
  rfl

-- What the places between double quotes are filled with in the definition of a resource.
def Resource.definitionTexts (stepName : String) (r : Resource) : List String :=
  match Kind.ofTag? r.kind with
  | some .environment => textsOf .empty (placesBetween "\"" "\"" Source.Environment.template)
      (Scope.ofRecord (Environment.ofResource stepName r).record)
  | some .metric => textsOf .empty (placesBetween "\"" "\"" Source.Metric.template)
      (Scope.ofRecord (Metric.ofResource stepName r).record)
  | none => []

theorem Resource.definitionTexts_eq (stepName : String) (r : Resource) :
    r.definitionTexts stepName = r.stored := by
  unfold definitionTexts stored
  split
  next =>
    rw [Environment.textsOf_places, Environment.ofResource_eq, List.flatMap_map]
  next =>
    rw [Metric.textsOf_places]
    simp [Metric.ofResource, Metric.Measurement.stored, Metric.Measurement.ofEntry,
      List.flatMap_assoc, List.flatMap_map]
  next => rfl

theorem Resource.between_stored (h : resource.Builds stepName output) :
    Between "\"" "\"" resource.stored output.definition := by
  rw [← definitionTexts_eq stepName, definitionTexts]
  cases h with
  | environment hkind hdefinition =>
      rw [hkind]
      exact between_of_fillAll (Environment.definition_ok_iff.mp hdefinition).2
  | metric hkind hdefinition =>
      rw [hkind]
      exact between_of_fillAll (Metric.definition_ok_iff.mp hdefinition).2

namespace Name

variable {name : String}

theorem isPlain_of_isIdentifier (h : isIdentifier name = true) : IsPlain name := by
  have hall : (['"', '\\', '\n'].all fun c => !Text.isWordChar c) = true := by decide +kernel
  have hword : ∀ c ∈ ['"', '\\', '\n'], Text.isWordChar c = false := by simpa using hall
  intro c hc hspecial
  have hfalse := hword c hspecial
  rw [isWordChar_of_isIdentifier h hc] at hfalse
  cases hfalse

-- What cannot stand for itself is not lost when a name is exported.
theorem isPlain_of_isIdentifier_exported (h : isIdentifier (exported name) = true) :
    IsPlain name := by
  have hall : (['"', '\\', '\n'].all fun c =>
      acronyms.all (fun entry => !entry.1.toList.contains c) && Text.upper c == [c]) = true := by
    decide +kernel
  have hkept : ∀ c ∈ ['"', '\\', '\n'], (∀ entry ∈ acronyms, c ∉ entry.1.toList) ∧
      Text.upper c = [c] := by simpa using hall
  intro c hc hspecial
  obtain ⟨hacronyms, hupper⟩ := hkept c hspecial
  exact isPlain_of_isIdentifier h c (mem_exported hacronyms hupper hc) hspecial

end Name

theorem Resource.isPlain_category {r : Resource} {e : Resource.Entry}
    (h : ∀ category ∈ r.categories, Name.isIdentifier category = true) (he : e ∈ r.entries) :
    IsPlain e.variable.category := by
  by_cases hempty : e.variable.category = ""
  · rw [hempty]
    intro c hc
    exact absurd hc (by simp)
  · exact Name.isPlain_of_isIdentifier (h _ (mem_categories_iff.mpr ⟨hempty, e, he, rfl⟩))

-- Between double quotes the strings stand for themselves, since they are checked to be parts of
-- names.
theorem Resource.isPlain_stored {r : Resource} (h : r.isSound = true) :
    ∀ s ∈ r.stored, IsPlain s := by
  rw [isSound, List.all_eq_true] at h
  unfold stored
  split
  next hkind =>
    rw [← checkedNames_of_environment "" hkind, Environment.names, Environment.ofResource_eq] at h
    obtain ⟨hcategories, hfields⟩ := List.forall_mem_append.mp h
    rw [List.forall_mem_map] at hcategories hfields
    intro s hs
    obtain ⟨e, he, hmem⟩ := List.mem_flatMap.mp hs
    have hname : IsPlain e.variable.name :=
      Name.isPlain_of_isIdentifier_exported (hfields _ (List.mem_map_of_mem he))
    have hcategory : IsPlain e.variable.category := isPlain_category hcategories he
    simp only [List.mem_cons, List.not_mem_nil, or_false] at hmem
    obtain rfl | rfl := hmem
    · exact hcategory
    · exact hname
  next hkind =>
    rw [← checkedNames_of_metric "" hkind] at h
    intro s hs
    obtain ⟨e, he, hmem⟩ := List.mem_flatMap.mp hs
    obtain ⟨member, hmember, hmem⟩ := List.mem_flatMap.mp hmem
    have hnames : ∀ n ∈ (Metric.Measurement.ofEntry e).names, n.isSound = true := by
      intro n hn
      exact h n (List.mem_flatMap.mpr ⟨_, List.mem_map_of_mem he, hn⟩)
    obtain ⟨hmeasurement, hmembers⟩ := List.forall_mem_cons.mp hnames
    have hexported : Name.isIdentifier (Name.exported member.name) = true := by
      obtain hfield | htag := List.mem_append.mp hmember
      · refine hmembers ⟨"field", _⟩ (List.mem_append_left _ ?_)
        exact List.mem_map.mpr ⟨_, List.mem_map_of_mem hfield, rfl⟩
      · refine hmembers ⟨"tag", _⟩ (List.mem_append_right _ ?_)
        exact List.mem_map.mpr ⟨_, List.mem_map_of_mem htag, rfl⟩
    simp only [List.mem_cons, List.not_mem_nil, or_false] at hmem
    obtain rfl | rfl := hmem
    · exact Name.isPlain_of_isIdentifier hmeasurement
    · exact Name.isPlain_of_isIdentifier_exported hexported
  next => exact fun s hs => absurd hs List.not_mem_nil

end StepCommand
