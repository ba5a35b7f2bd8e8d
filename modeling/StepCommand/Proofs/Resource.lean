import StepCommand.Proofs.Except
import StepCommand.Proofs.Source.Shape
import StepCommand.Proofs.Unique

namespace StepCommand

open Resource (Named checkNames)
open Template (Shape Fits)

variable {failure : Failure}

theorem Template.fill_of_fits {table : Table} {template : Template} {shape : Shape}
    {record : Value} (name : String) (hf : Fits table template shape) (hr : shape.Admits record) :
    ∃ text, fill name table template record = .ok text := by
  obtain ⟨text, h⟩ := render_of_fits hf hr
  exact ⟨text, by simp only [fill, h, Except.mapError]⟩

-- Can the name be given to something in the sources?
def Resource.Named.isSound (n : Named) : Bool := Name.isIdentifier n.name

theorem Resource.checkNames_ok_iff {resource : String} {names : List Named} :
    checkNames resource names = .ok () ↔ ∀ n ∈ names, n.isSound = true := by
  induction names with
  | nil => simp [checkNames]
  | cons n rest ih =>
      cases hn : Name.isIdentifier n.name with
      | false => simp [checkNames, Named.isSound, hn]
      | true => simp [checkNames, Named.isSound, hn, ih]

theorem Resource.checkNames_error_iff {resource : String} {names : List Named} :
    checkNames resource names = .error failure ↔
      ∃ n, names.find? (fun n => !n.isSound) = some n ∧
        failure = .malformedResource resource n.reason := by
  induction names with
  | nil => simp [checkNames]
  | cons n rest ih =>
      cases hn : Name.isIdentifier n.name with
      | false => simp [checkNames, Named.isSound, hn, eq_comm]
      | true => simp [checkNames, Named.isSound, hn, ih]

-- What a definition is filled in from is in order once its names are.
theorem Environment.definition_of_checkNames {env : Environment}
    (h : checkNames env.name env.names = .ok ()) : ∃ text, env.definition = .ok text := by
  obtain ⟨text, htext⟩ :=
    Template.fill_of_fits "environmentResource" Source.Environment.fits env.shape_admits
  exact ⟨text, by simp only [definition, h, htext, bind, Except.bind]⟩

theorem Metric.definition_of_checkNames {metric : Metric}
    (h : checkNames metric.name metric.names = .ok ()) : ∃ text, metric.definition = .ok text := by
  obtain ⟨text, htext⟩ :=
    Template.fill_of_fits "metricResource" Source.Metric.fits metric.shape_admits
  exact ⟨text, by simp only [definition, h, htext, bind, Except.bind]⟩

theorem Environment.definition_error_iff {env : Environment} :
    env.definition = .error failure ↔ checkNames env.name env.names = .error failure := by
  cases h : checkNames env.name env.names with
  | error cause => simp [definition, h, bind, Except.bind]
  | ok _ =>
      obtain ⟨text, htext⟩ := definition_of_checkNames h
      simp [htext]

theorem Metric.definition_error_iff {metric : Metric} :
    metric.definition = .error failure ↔ checkNames metric.name metric.names = .error failure := by
  cases h : checkNames metric.name metric.names with
  | error cause => simp [definition, h, bind, Except.bind]
  | ok _ =>
      obtain ⟨text, htext⟩ := definition_of_checkNames h
      simp [htext]

-- The value of an environment that an entry declares.
def Resource.Entry.variable (e : Resource.Entry) : Environment.Variable :=
  ⟨(Environment.splitName e.name).1, (Environment.splitName e.name).2, Name.memberType e.kind⟩

-- The categories of the entries, each at its first place; values at top level have none.
def Resource.categories (r : Resource) : List String :=
  uniqueBy id ((r.entries.map fun e => e.variable.category).filter fun category => category ≠ "")

theorem Resource.mem_categories_iff {r : Resource} {category : String} :
    category ∈ r.categories ↔ category ≠ "" ∧ ∃ e ∈ r.entries, e.variable.category = category := by
  have hmem : category ∈ (uniqueBy id ((r.entries.map fun e => e.variable.category).filter
      fun category => category ≠ "")).map id ↔ category ∈ ((r.entries.map
        fun e => e.variable.category).filter fun category => category ≠ "").map id :=
    mem_map_uniqueBy_iff
  rw [List.map_id, List.map_id] at hmem
  rw [categories, hmem, List.mem_filter, List.mem_map, and_comm, decide_eq_true_iff]

theorem Environment.foldl_addCategory (categories declared : List String) :
    declared.foldl (fun categories category => addCategory category categories) categories =
      categories ++ uniqueFrom id categories (declared.filter fun category => category ≠ "") := by
  induction declared generalizing categories with
  | nil => simp [uniqueFrom]
  | cons category rest ih =>
      rw [List.foldl_cons, ih]
      by_cases hempty : category = ""
      · simp [addCategory, hempty]
      · by_cases hmem : category ∈ categories
        · simp [addCategory, hempty, hmem, uniqueFrom]
        · have hcongr : ∀ k, k ∈ categories ++ [category] ↔ k ∈ id category :: categories := by
            intro k
            simp [or_comm]
          simp only [addCategory, hempty, hmem, or_self, if_false, uniqueFrom_congr hcongr]
          simp [hempty, hmem, uniqueFrom]

theorem Environment.foldl_add (env : Environment) (entries : List Resource.Entry) :
    entries.foldl (fun env entry => env.add entry.name entry.kind) env =
      { env with
        members := env.members ++ entries.map Resource.Entry.variable
        categories := (entries.map fun e => e.variable.category).foldl
          (fun categories category => addCategory category categories) env.categories } := by
  induction entries generalizing env with
  | nil => simp
  | cons entry rest ih =>
      rw [List.foldl_cons, ih]
      simp [add, Resource.Entry.variable]

theorem Environment.ofResource_eq (stepName : String) (r : Resource) :
    ofResource stepName r =
      { stepName, name := r.name, members := r.entries.map Resource.Entry.variable,
        categories := r.categories } := by
  rw [ofResource, foldl_add, foldl_addCategory]
  rfl

-- The names that have to be identifiers, in the order in which they are looked at.
def Resource.checkedNames (r : Resource) : List Named :=
  if r.kind = "piperEnvironment" then
    r.categories.map (fun category => ⟨"category", category⟩) ++
      r.entries.map fun e => ⟨"field", Name.exported e.variable.name⟩
  else if r.kind = "influx" then
    r.entries.flatMap fun measurement =>
      ⟨"measurement", measurement.name⟩ ::
        (measurement.fields.map (fun field => ⟨"field", Name.exported field.name⟩) ++
          measurement.tags.map fun tag => ⟨"tag", Name.exported tag.name⟩)
  else []

def Resource.isSound (r : Resource) : Bool := r.checkedNames.all Named.isSound

theorem Resource.Kind.ofTag?_eq (tag : String) :
    ofTag? tag =
      if tag = "piperEnvironment" then some .environment
      else if tag = "influx" then some .metric
      else none := by
  by_cases he : tag = "piperEnvironment"
  · rw [he]
    rfl
  · by_cases hm : tag = "influx"
    · rw [hm]
      rfl
    · simp [ofTag?, Kind.tag, he, hm, Ne.symm he, Ne.symm hm]

theorem Resource.checkedNames_of_environment {r : Resource} (stepName : String)
    (h : Kind.ofTag? r.kind = some .environment) :
    (Environment.ofResource stepName r).names = r.checkedNames := by
  have hkind : r.kind = "piperEnvironment" := by
    rw [Kind.ofTag?_eq] at h
    split at h
    next hkind => exact hkind
    next => split at h <;> cases h
  rw [checkedNames, if_pos hkind, Environment.names, Environment.ofResource_eq, List.map_map]
  rfl

theorem Resource.checkedNames_of_metric {r : Resource} (stepName : String)
    (h : Kind.ofTag? r.kind = some .metric) :
    (Metric.ofResource stepName r).names = r.checkedNames := by
  have hkind : r.kind = "influx" := by
    rw [Kind.ofTag?_eq] at h
    split at h
    next => cases h
    next =>
      split at h
      next hkind => exact hkind
      next => cases h
  have hother : r.kind ≠ "piperEnvironment" := by simp [hkind]
  rw [checkedNames, if_neg hother, if_pos hkind, Metric.names, Metric.ofResource, List.flatMap_map]
  simp [Metric.Measurement.names, Metric.Measurement.ofEntry, Function.comp_def]

theorem Resource.checkedNames_of_none {r : Resource} (h : Kind.ofTag? r.kind = none) :
    r.checkedNames = [] := by
  rw [Kind.ofTag?_eq] at h
  split at h
  next => cases h
  next he =>
    split at h
    next => cases h
    next hm => rw [checkedNames, if_neg he, if_neg hm]

-- A resource is stopped only by a name in it: whatever its template is filled from can be filled
-- in.
theorem Output.ofKind_error_iff {stepName : String} {r : Resource} {kind : Resource.Kind}
    (hkind : Resource.Kind.ofTag? r.kind = some kind) :
    ofKind stepName r kind = .error failure ↔
      checkNames r.name r.checkedNames = .error failure := by
  cases kind with
  | environment =>
      have hname : (Environment.ofResource stepName r).name = r.name := by
        rw [Environment.ofResource_eq]
      rw [← Resource.checkedNames_of_environment stepName hkind, ← hname,
        ← Environment.definition_error_iff]
      simp [ofKind, Except.bind_error_iff, pure, Except.pure]
  | metric =>
      have hname : (Metric.ofResource stepName r).name = r.name := rfl
      rw [← Resource.checkedNames_of_metric stepName hkind, ← hname, ← Metric.definition_error_iff]
      simp [ofKind, Except.bind_error_iff, pure, Except.pure]

theorem Resource.isSound_iff {r : Resource} :
    r.isSound = true ↔ checkNames r.name r.checkedNames = .ok () := by
  rw [checkNames_ok_iff, isSound, List.all_eq_true]

theorem Output.ofResources_error_iff {stepName : String} {resources : List Resource} :
    ofResources stepName resources = .error failure ↔
      ∃ r, resources.find? (fun r => !r.isSound) = some r ∧
        checkNames r.name r.checkedNames = .error failure := by
  induction resources with
  | nil => simp [ofResources]
  | cons r rest ih =>
      cases hkind : Resource.Kind.ofTag? r.kind with
      | none =>
          have hsound : r.isSound = true := by
            simp [Resource.isSound, Resource.checkedNames_of_none hkind]
          simp [ofResources, hkind, hsound, ih]
      | some kind =>
          simp only [ofResources, hkind, Except.bind_error_iff, ofKind_error_iff hkind, ih, pure,
            Except.pure, reduceCtorEq, and_false, exists_false, or_false]
          cases hcheck : checkNames r.name r.checkedNames with
          | error cause =>
              have hsound : r.isSound = false := by
                rw [Bool.eq_false_iff, ne_eq, Resource.isSound_iff, hcheck]
                simp
              have hbuilt : ofKind stepName r kind = .error cause :=
                (ofKind_error_iff hkind).mpr hcheck
              simp [hsound, hcheck, hbuilt]
          | ok _ =>
              have hsound : r.isSound = true := Resource.isSound_iff.mpr hcheck
              obtain ⟨output, hbuilt⟩ : ∃ output, ofKind stepName r kind = .ok output := by
                cases hk : ofKind stepName r kind with
                | ok output => exact ⟨output, rfl⟩
                | error cause =>
                    rw [ofKind_error_iff hkind, hcheck] at hk
                    cases hk
              simp [hsound, hbuilt]

end StepCommand
