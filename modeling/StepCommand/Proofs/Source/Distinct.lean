import StepCommand.Proofs.Resource.Struct
import StepCommand.Proofs.Source.Command.Agreement
import StepCommand.Proofs.Source.Sections
import StepCommand.Proofs.Text.Between

namespace StepCommand

open Source (Struct)
open Source.Struct (Part areDistinct_iff areDistinct_append areDistinct_of_values
  areDistinct_map_group)
open Source.Command
open Text (InOrder)

variable {step : Step} {exportPrefix : Option String} {a : Assembly}

def Parameter.part (p : Parameter) : Part :=
  .value (Name.exported p.name) (p.kind ++ (" `json:\"" ++ (p.name ++ ",omitempty\"`")))

def Step.options (s : Step) : Struct where
  name := s.name ++ "Options"
  members := (uniqueBy Parameter.name s.parameters).map Parameter.part

def Step.structs (s : Step) : List Struct := s.options :: s.built.map (Resource.struct s.name)

-- Values of an environment that have different names in their category, none of them the name of a
-- category.
structure Resource.EntriesDiffer (entries : List Resource.Entry) : Prop where
  fields : (entries.map fun e => (e.variable.category, e.variable.field)).Nodup
  categories : ∀ e ∈ entries, ∀ other ∈ entries, e.variable.category = "" →
    other.variable.category ≠ "" → e.variable.field ≠ other.variable.category

structure Resource.MeasurementsDiffer (entries : List Resource.Entry) : Prop where
  measurements : (entries.map Resource.Entry.name).Nodup
  fields : ∀ e ∈ entries, (e.fields.map fun field => Name.exported field.name).Nodup
  tags : ∀ e ∈ entries, (e.tags.map fun tag => Name.exported tag.name).Nodup

structure Step.NamesDiffer (s : Step) : Prop where
  parameters : ∀ p ∈ s.parameters, ∀ q ∈ s.parameters,
    Name.exported p.name = Name.exported q.name → p.name = q.name
  environments : ∀ r ∈ s.resources, r.kind = "piperEnvironment" → Resource.EntriesDiffer r.entries
  metrics : ∀ r ∈ s.resources, r.kind = "influx" → Resource.MeasurementsDiffer r.entries

theorem nodup_map_pair_iff {α β γ : Type} [DecidableEq β] {key : α → β} {value : α → γ}
    {xs : List α} :
    (xs.map fun x => (key x, value x)).Nodup ↔
      ∀ k, ((xs.filter fun x => key x = k).map value).Nodup := by
  induction xs with
  | nil => simp
  | cons x rest ih =>
      have hself : (x :: rest).filter (fun y => key y = key x) =
          x :: rest.filter fun y => key y = key x := List.filter_cons_of_pos (by simp)
      rw [List.map_cons, List.nodup_cons, ih]
      constructor
      · rintro ⟨hx, hrest⟩ k
        by_cases hk : key x = k
        · subst hk
          rw [hself, List.map_cons, List.nodup_cons]
          refine ⟨fun hmem => hx ?_, hrest _⟩
          obtain ⟨y, hy, hvalue⟩ := List.mem_map.mp hmem
          obtain ⟨hy, hkey⟩ := List.mem_filter.mp hy
          exact List.mem_map.mpr ⟨y, hy, Prod.ext (of_decide_eq_true hkey) hvalue⟩
        · rw [List.filter_cons_of_neg (by simpa using hk)]
          exact hrest k
      · intro h
        have hx := h (key x)
        rw [hself, List.map_cons, List.nodup_cons] at hx
        refine ⟨fun hmem => hx.1 ?_, fun k => ?_⟩
        · obtain ⟨y, hy, heq⟩ := List.mem_map.mp hmem
          obtain ⟨hkey, hvalue⟩ := Prod.mk.inj heq
          exact List.mem_map.mpr ⟨y, List.mem_filter.mpr ⟨hy, decide_eq_true hkey⟩, hvalue⟩
        · by_cases hk : key x = k
          · exact hk ▸ hx.2
          · have hrest := h k
            rwa [List.filter_cons_of_neg (by simpa using hk)] at hrest

theorem Step.options_isDistinct_iff (s : Step) :
    s.options.IsDistinct ↔ ∀ p ∈ s.parameters, ∀ q ∈ s.parameters,
      Name.exported p.name = Name.exported q.name → p.name = q.name := by
  have hnames : s.options.members.map Part.name =
      ((uniqueBy Parameter.name s.parameters).map Parameter.name).map Name.exported := by
    rw [options, List.map_map, List.map_map]
    rfl
  rw [Struct.IsDistinct, hnames, List.nodup_map_iff_inj_on (nodup_map_uniqueBy _ _)]
  simp only [mem_map_uniqueBy_iff, List.forall_mem_map]
  exact and_iff_left (areDistinct_of_values _ _ _)

theorem Environment.struct_isDistinct_iff (stepName : String) (r : Resource) :
    (Environment.ofResource stepName r).struct.IsDistinct ↔
      Resource.EntriesDiffer r.entries := by
  have hinside : ∀ category, (((Environment.ofResource stepName r).inCategory category).map
      Variable.part).map Part.name =
      (r.entries.filter fun e => e.variable.category = category).map fun e => e.variable.field := by
    intro category
    rw [Environment.ofResource_eq, inCategory, List.map_map, List.filter_map, List.map_map]
    rfl
  have hcategories : (Environment.ofResource stepName r).categories = r.categories := by
    rw [Environment.ofResource_eq]
  have hnames : ((Environment.ofResource stepName r).categories.map
      (Environment.ofResource stepName r).categoryPart).map Part.name = r.categories := by
    rw [List.map_map, hcategories]
    exact List.map_id' r.categories
  have hparts : Source.Struct.AreDistinct (((Environment.ofResource stepName r).inCategory "").map
      Variable.part) := areDistinct_of_values _ _ _
  have hgroups : Source.Struct.AreDistinct ((Environment.ofResource stepName r).categories.map
      (Environment.ofResource stepName r).categoryPart) ↔ ∀ category ∈ r.categories,
      ((r.entries.filter fun e => e.variable.category = category).map
        fun e => e.variable.field).Nodup := by
    rw [hcategories]
    refine areDistinct_map_group.trans (forall₂_congr fun category _ => ?_)
    rw [hinside]
    exact and_iff_left (areDistinct_of_values _ _ _)
  rw [Struct.IsDistinct, struct, List.map_append, hinside, hnames, areDistinct_append, hgroups,
    List.nodup_append]
  constructor
  · rintro ⟨⟨htop, _, hapart⟩, _, hgrouped⟩
    refine ⟨nodup_map_pair_iff.mpr fun category => ?_, ?_⟩
    · by_cases hempty : category = ""
      · exact hempty ▸ htop
      · by_cases hmem : category ∈ r.categories
        · exact hgrouped category hmem
        · have hnone : (r.entries.filter fun e => e.variable.category = category) = [] := by
            refine List.filter_eq_nil_iff.mpr fun e he heq => hmem ?_
            exact Resource.mem_categories_iff.mpr ⟨hempty, e, he, of_decide_eq_true heq⟩
          rw [hnone]
          exact List.nodup_nil
    · intro e he other hother htop hcategory
      refine hapart _
        (List.mem_map.mpr ⟨e, List.mem_filter.mpr ⟨he, decide_eq_true htop⟩, rfl⟩) _ ?_
      exact Resource.mem_categories_iff.mpr ⟨hcategory, other, hother, rfl⟩
  · intro h
    have hfields := nodup_map_pair_iff.mp h.fields
    have hdifferent : r.categories.Nodup := by
      have hunique := nodup_map_uniqueBy id
        ((r.entries.map fun e => e.variable.category).filter fun category => category ≠ "")
      rwa [List.map_id] at hunique
    refine ⟨⟨hfields "", hdifferent, ?_⟩, hparts, fun category _ => hfields category⟩
    intro field hfield category hcategory
    obtain ⟨e, he, rfl⟩ := List.mem_map.mp hfield
    obtain ⟨he, htop⟩ := List.mem_filter.mp he
    obtain ⟨hne, other, hother, rfl⟩ := Resource.mem_categories_iff.mp hcategory
    exact h.categories e he other hother (of_decide_eq_true htop) hne

theorem Metric.struct_isDistinct_iff (stepName : String) (r : Resource) :
    (Metric.ofResource stepName r).struct.IsDistinct ↔
      Resource.MeasurementsDiffer r.entries := by
  have hnames : (Metric.ofResource stepName r).struct.members.map Part.name =
      r.entries.map Resource.Entry.name := by
    rw [struct, ofResource, List.map_map, List.map_map]
    rfl
  have hinside : ∀ e ∈ r.entries, (((Measurement.ofEntry e).part).IsDistinct ↔
      (e.fields.map fun field => Name.exported field.name).Nodup ∧
        (e.tags.map fun tag => Name.exported tag.name).Nodup) := by
    intro e _
    have hfields : ((Measurement.ofEntry e).fields.map fieldPart).map Part.name =
        e.fields.map fun field => Name.exported field.name := by
      rw [Measurement.ofEntry, List.map_map, List.map_map]
      rfl
    have htags : ((Measurement.ofEntry e).tags.map tagPart).map Part.name =
        e.tags.map fun tag => Name.exported tag.name := by
      rw [Measurement.ofEntry, List.map_map, List.map_map]
      rfl
    have hgroups : ["fields", "tags"].Nodup := by decide
    have hfieldParts : Source.Struct.AreDistinct ((Measurement.ofEntry e).fields.map fieldPart) :=
      areDistinct_of_values _ _ _
    have htagParts : Source.Struct.AreDistinct ((Measurement.ofEntry e).tags.map tagPart) :=
      areDistinct_of_values _ _ _
    simp only [Measurement.part, Part.IsDistinct, Source.Struct.AreDistinct, List.map_cons,
      List.map_nil, Part.name, hgroups, hfields, htags, hfieldParts, htagParts, true_and, and_true]
  have hmembers : Source.Struct.AreDistinct (Metric.ofResource stepName r).struct.members ↔
      ∀ e ∈ r.entries, ((Measurement.ofEntry e).part).IsDistinct := by
    rw [struct, ofResource, List.map_map, areDistinct_iff, List.forall_mem_map]
    rfl
  rw [Struct.IsDistinct, hnames, hmembers, forall₂_congr hinside]
  constructor
  · rintro ⟨hmeasurements, hinner⟩
    exact ⟨hmeasurements, fun e he => (hinner e he).1, fun e he => (hinner e he).2⟩
  · intro h
    exact ⟨h.measurements, fun e he => ⟨h.fields e he, h.tags e he⟩⟩

theorem Resource.struct_isDistinct_iff (stepName : String) {r : Resource} :
    (r.struct stepName).IsDistinct ↔
      (r.kind = "piperEnvironment" → EntriesDiffer r.entries) ∧
        (r.kind = "influx" → MeasurementsDiffer r.entries) := by
  rw [struct, Kind.ofTag?_eq]
  by_cases henvironment : r.kind = "piperEnvironment"
  · simp [henvironment, Environment.struct_isDistinct_iff]
  · by_cases hmetric : r.kind = "influx"
    · simp [hmetric, Metric.struct_isDistinct_iff]
    · simp [henvironment, hmetric, Struct.IsDistinct, Source.Struct.AreDistinct]

theorem Step.structs_isDistinct_iff (s : Step) :
    (∀ struct ∈ s.structs, struct.IsDistinct) ↔ s.NamesDiffer := by
  rw [structs, List.forall_mem_cons, List.forall_mem_map, options_isDistinct_iff]
  simp only [Resource.struct_isDistinct_iff]
  constructor
  · rintro ⟨hparameters, hresources⟩
    refine ⟨hparameters, fun r hr hkind => ?_, fun r hr hkind => ?_⟩
    · exact (hresources r (List.mem_filter.mpr ⟨hr, Resource.isBuilt_iff.mpr (.inl hkind)⟩)).1 hkind
    · exact (hresources r (List.mem_filter.mpr ⟨hr, Resource.isBuilt_iff.mpr (.inr hkind)⟩)).2 hkind
  · intro h
    refine ⟨h.parameters, fun r hr => ⟨h.environments r ?_, h.metrics r ?_⟩⟩
    · exact List.mem_of_mem_filter hr
    · exact List.mem_of_mem_filter hr

theorem Parameter.text_part (p : Parameter) :
    p.part.text 1 = Field.text ⟨Name.exported p.name, p.kind, p.name⟩ := by
  have hclosing : ",omitempty\"`\n" = ",omitempty\"`" ++ "\n" := by simp
  unfold Field.text
  rw [part, Part.text, Template.tabs_one]
  simp only [hclosing]
  simp only [String.append_assoc]

section File

variable (h : step.assemble exportPrefix = .ok a)

include h

theorem Step.text_options : step.options.text = a.interface.optionsText a.step.name := by
  obtain ⟨_, hdeclared, _, hstep, _⟩ := assemble_ok_iff.mp h
  obtain ⟨hparameters, htyped⟩ := TypedParameter.mapM_ok hdeclared
  have hfields := (Assembly.agrees_of_typed htyped).fields
  rw [Assembly.map_declaration_parameters, hparameters] at hfields
  have hopening : "Options struct \x7b\n" = "Options" ++ " struct \x7b\n" := by simp
  unfold Struct.text Interface.optionsText
  rw [hfields, hstep, options, Source.Struct.textOf_eq_join, List.map_map, List.map_map, hopening]
  simp only [Function.comp_def, Parameter.text_part, String.append_assoc]

theorem Step.inOrder_structs_text :
    ∃ text, SourceFile.command.content a = .ok text ∧
      InOrder (step.structs.map Struct.text) text := by
  obtain ⟨text, htext, hsections⟩ := exists_sections a
  refine ⟨text, htext, ?_⟩
  have hoptions : InOrder [step.options.text] (a.interface.optionsText a.step.name) :=
    text_options h ▸ InOrder.self _
  have hdefinitions : InOrder ((step.built.map (Resource.struct step.name)).map Struct.text)
      a.definitionsText := by
    have houtputs := outputs_of_assemble h
    rw [Assembly.definitionsText, List.map_map]
    generalize step.built = resources, a.outputs = outputs at houtputs
    induction houtputs with
    | nil => trivial
    | cons hfirst _ ih =>
        obtain ⟨rest, heq⟩ := Resource.exists_definition_eq hfirst
        rw [List.map_cons, List.map_cons, String.join_cons, heq]
        exact (((InOrder.self _).extend rest).extend "\n" |>.prepend "\n").append ih
  cases hsections with
  | parts _ _ _ =>
      rw [structs, List.map_cons]
      exact (hoptions.append (hdefinitions.extend _)).prepend _

-- No two members of one level have the same name exactly if the names differ once they are
-- exported.
theorem Step.members_distinct_iff :
    ∃ text, SourceFile.command.content a = .ok text ∧
      InOrder (step.structs.map Struct.text) text ∧
      ((∀ struct ∈ step.structs, struct.IsDistinct) ↔ step.NamesDiffer) := by
  obtain ⟨text, htext, horder⟩ := inOrder_structs_text h
  exact ⟨text, htext, horder, structs_isDistinct_iff step⟩

end File

-- A value and a category may have names that are the same but for their spelling in the sources.
theorem Step.members_distinct_iff_commit :
    let step : Step := {
      name := "deploy"
      parameters := [
        { name := "apiToken", kind := "string" }, { name := "retries", kind := "int" },
        { name := "apiToken", kind := "bool" }]
      resources := [
        { name := "env", kind := "piperEnvironment", entries := [
          { name := "git" }, { name := "git/commitId" }, { name := "git/branch" }] },
        { name := "data", kind := "influx", entries := [
          { name := "step", fields := [{ name := "time" }], tags := [{ name := "time" }] }] }] }
    ∃ a text, step.assemble none = .ok a ∧ SourceFile.command.content a = .ok text ∧
      InOrder (step.structs.map Struct.text) text ∧ ∀ struct ∈ step.structs, struct.IsDistinct := by
  intro step
  have hok : (step.assemble none).toOption.isSome = true := by decide +kernel
  have hdiffer : step.NamesDiffer := by
    refine ⟨by decide +kernel, fun r hr hkind => ?_, fun r hr hkind => ?_⟩
    · have hentries : ∀ r ∈ step.resources, r.kind = "piperEnvironment" →
          (r.entries.map fun e => (e.variable.category, e.variable.field)).Nodup ∧
          ∀ e ∈ r.entries, ∀ other ∈ r.entries, e.variable.category = "" →
            other.variable.category ≠ "" → e.variable.field ≠ other.variable.category := by
        decide +kernel
      exact ⟨(hentries r hr hkind).1, (hentries r hr hkind).2⟩
    · have hentries : ∀ r ∈ step.resources, r.kind = "influx" →
          (r.entries.map Resource.Entry.name).Nodup ∧
          (∀ e ∈ r.entries, (e.fields.map fun field => Name.exported field.name).Nodup) ∧
          ∀ e ∈ r.entries, (e.tags.map fun tag => Name.exported tag.name).Nodup := by
        decide +kernel
      obtain ⟨hmeasurements, hfields, htags⟩ := hentries r hr hkind
      exact ⟨hmeasurements, hfields, htags⟩
  rcases h : step.assemble none with failure | a
  · simp [h, Except.toOption] at hok
  · obtain ⟨text, htext, horder, hiff⟩ := Step.members_distinct_iff h
    exact ⟨a, text, rfl, htext, horder, hiff.mpr hdiffer⟩

-- Names that differ before they are exported are the same member in the options, and nothing is
-- left out of a resource that declares a name again.
theorem Step.members_repeated :
    let step : Step := {
      name := "deploy"
      parameters := [{ name := "userId", kind := "string" }, { name := "userID", kind := "string" }]
      resources := [
        { name := "env", kind := "piperEnvironment", entries := [
          { name := "status" }, { name := "status" }] },
        { name := "data", kind := "influx", entries := [
          { name := "step", fields := [{ name := "time" }] }, { name := "step" }] }] }
    ∃ a, step.assemble none = .ok a ∧
      ¬(a.parameters.map fun p => Name.exported p.name).Nodup ∧ step.structs.length = 3 ∧
      ∀ struct ∈ step.structs, ¬struct.IsDistinct := by
  intro step
  have hok : ((step.assemble none).toOption.any fun a =>
      ¬(a.parameters.map fun p => Name.exported p.name).Nodup) = true := by
    decide +kernel
  have hrepeated : ∀ struct ∈ step.structs, ¬(struct.members.map Part.name).Nodup := by
    decide +kernel
  rcases h : step.assemble none with failure | a
  · simp [h, Except.toOption] at hok
  · refine ⟨a, rfl, by simpa [h, Except.toOption] using hok, by decide +kernel, ?_⟩
    exact fun struct hstruct hdistinct => hrepeated struct hstruct hdistinct.1

end StepCommand
