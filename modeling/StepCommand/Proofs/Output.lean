import StepCommand.Proofs.Assembly

namespace StepCommand

open Resource (Kind checkNames)

variable {stepName definition : String} {resource : Resource} {output : Output}

def Resource.isBuilt (r : Resource) : Bool := (Kind.ofTag? r.kind).isSome

theorem Resource.isBuilt_iff {r : Resource} :
    r.isBuilt = true ↔ r.kind = "piperEnvironment" ∨ r.kind = "influx" := by
  rw [isBuilt, Kind.ofTag?_eq]
  by_cases henvironment : r.kind = "piperEnvironment"
  · simp [henvironment]
  · by_cases hmetric : r.kind = "influx"
    · simp [hmetric]
    · simp [henvironment, hmetric]

-- The type and the definition of a resource that is built.
inductive Resource.Builds (stepName : String) (r : Resource) : Output → Prop where
  | environment {definition : String} (hkind : Kind.ofTag? r.kind = some .environment)
      (hdefinition : (Environment.ofResource stepName r).definition = .ok definition) :
      Builds stepName r ⟨r.name, typeName stepName r.name, definition⟩
  | metric {definition : String} (hkind : Kind.ofTag? r.kind = some .metric)
      (hdefinition : (Metric.ofResource stepName r).definition = .ok definition) :
      Builds stepName r ⟨r.name, typeName stepName r.name, definition⟩

theorem Template.fill_ok_iff {name : String} {table : Table} {template : Template} {record : Value}
    {text : String} :
    fill name table template record = .ok text ↔ template.render table record = .ok text := by
  cases h : template.render table record <;> simp [fill, h, Except.mapError]

theorem Environment.definition_ok_iff {env : Environment} :
    env.definition = .ok definition ↔
      checkNames env.name env.names = .ok () ∧
        Template.render .empty Source.Environment.template env.record = .ok definition := by
  rw [Environment.definition, Except.bind_ok_iff, ← Template.fill_ok_iff]
  constructor
  · rintro ⟨_, hcheck, hfill⟩
    exact ⟨hcheck, hfill⟩
  · rintro ⟨hcheck, hfill⟩
    exact ⟨(), hcheck, hfill⟩

theorem Metric.definition_ok_iff {metric : Metric} :
    metric.definition = .ok definition ↔
      checkNames metric.name metric.names = .ok () ∧
        Template.render .empty Source.Metric.template metric.record = .ok definition := by
  rw [Metric.definition, Except.bind_ok_iff, ← Template.fill_ok_iff]
  constructor
  · rintro ⟨_, hcheck, hfill⟩
    exact ⟨hcheck, hfill⟩
  · rintro ⟨hcheck, hfill⟩
    exact ⟨(), hcheck, hfill⟩

-- Only resources whose names are in order are built.
theorem Resource.Builds.isSound (h : resource.Builds stepName output) :
    resource.isSound = true := by
  rw [isSound_iff]
  cases h with
  | environment hkind hdefinition =>
      have hname : (Environment.ofResource stepName resource).name = resource.name := by
        rw [Environment.ofResource_eq]
      rw [← checkedNames_of_environment stepName hkind, ← hname]
      exact (Environment.definition_ok_iff.mp hdefinition).1
  | metric hkind hdefinition =>
      rw [← checkedNames_of_metric stepName hkind]
      exact (Metric.definition_ok_iff.mp hdefinition).1

theorem Output.ofKind_environment_ok_iff (hkind : Kind.ofTag? resource.kind = some .environment) :
    ofKind stepName resource .environment = .ok output ↔ resource.Builds stepName output := by
  have htype : (Environment.ofResource stepName resource).typeName =
      Resource.typeName stepName resource.name := by
    rw [Environment.ofResource_eq, Environment.typeName]
  simp only [ofKind, Except.bind_ok_iff, htype, pure, Except.pure, Except.ok.injEq]
  constructor
  · rintro ⟨definition, hdefinition, rfl⟩
    exact .environment hkind hdefinition
  · intro h
    cases h with
    | environment _ hdefinition => exact ⟨_, hdefinition, rfl⟩
    | metric hmetric _ => simp [hkind] at hmetric

theorem Output.ofKind_metric_ok_iff (hkind : Kind.ofTag? resource.kind = some .metric) :
    ofKind stepName resource .metric = .ok output ↔ resource.Builds stepName output := by
  have htype : (Metric.ofResource stepName resource).typeName =
      Resource.typeName stepName resource.name := rfl
  simp only [ofKind, Except.bind_ok_iff, htype, pure, Except.pure, Except.ok.injEq]
  constructor
  · rintro ⟨definition, hdefinition, rfl⟩
    exact .metric hkind hdefinition
  · intro h
    cases h with
    | environment henv _ => simp [hkind] at henv
    | metric _ hdefinition => exact ⟨_, hdefinition, rfl⟩

-- The resources that are built keep their order.
theorem Output.ofResources_ok_iff {resources : List Resource} {outputs : List Output} :
    ofResources stepName resources = .ok outputs ↔
      List.Forall₂ (Resource.Builds stepName) (resources.filter Resource.isBuilt) outputs := by
  induction resources generalizing outputs with
  | nil => simp [ofResources, eq_comm]
  | cons r rest ih =>
      cases hkind : Kind.ofTag? r.kind with
      | none =>
          have hbuilt : r.isBuilt = false := by simp [Resource.isBuilt, hkind]
          simp only [ofResources, hkind, ih, List.filter_cons, hbuilt, Bool.false_eq_true, if_false]
      | some kind =>
          have hbuilt : r.isBuilt = true := by simp [Resource.isBuilt, hkind]
          have hfirst : ∀ output, ofKind stepName r kind = .ok output ↔
              r.Builds stepName output := by
            intro output
            cases kind with
            | environment => exact ofKind_environment_ok_iff hkind
            | metric => exact ofKind_metric_ok_iff hkind
          simp only [ofResources, hkind, Except.bind_ok_iff, hfirst, ih, List.filter_cons, hbuilt,
            if_true, pure, Except.pure, Except.ok.injEq, List.forall₂_cons_left_iff]
          constructor
          · rintro ⟨o, ho, others, hrest, rfl⟩
            exact ⟨o, others, ho, hrest, rfl⟩
          · rintro ⟨o, others, ho, hrest, rfl⟩
            exact ⟨o, ho, others, hrest, rfl⟩

namespace Step

def built (s : Step) : List Resource := s.resources.filter Resource.isBuilt

variable {step : Step} {exportPrefix : Option String} {a : Assembly}
  (h : step.assemble exportPrefix = .ok a)

include h

theorem outputs_of_assemble : List.Forall₂ (Resource.Builds step.name) step.built a.outputs := by
  obtain ⟨_, _, houtputs, _, _⟩ := assemble_ok_iff.mp h
  exact Output.ofResources_ok_iff.mp houtputs

theorem isSound_of_mem_built : ∀ r ∈ step.built, r.isSound = true := by
  have hsound : List.Forall₂ (fun r o => r.isSound = true ∧ Resource.Builds step.name r o)
      step.built a.outputs := (outputs_of_assemble h).imp fun _ _ ho => ⟨ho.isSound, ho⟩
  exact ((List.forall₂_and_left _ _).mp hsound).1

theorem exists_builds_of_mem : ∀ o ∈ a.outputs, ∃ r ∈ step.built, r.Builds step.name o := by
  intro o ho
  obtain ⟨i, hi, rfl⟩ := List.getElem_of_mem ho
  have houtputs := outputs_of_assemble h
  have hlength := houtputs.length_eq
  exact ⟨step.built[i], List.getElem_mem _, by simpa using houtputs.get (by omega) hi⟩

-- Each built resource is a variable of its own type.
theorem variables_of_assemble :
    a.outputs.map (fun o => (o.name, o.typeName)) =
      step.built.map fun r => (r.name, Resource.typeName step.name r.name) := by
  have houtputs := outputs_of_assemble h
  generalize step.built = resources, a.outputs = outputs at houtputs
  induction houtputs with
  | nil => rfl
  | cons hfirst _ ih => cases hfirst <;> rw [List.map_cons, List.map_cons, ih]

theorem names_of_assemble : a.outputs.map Output.name = step.built.map Resource.name := by
  have hnames := congrArg (List.map Prod.fst) (variables_of_assemble h)
  rwa [List.map_map, List.map_map] at hnames

end Step

end StepCommand
