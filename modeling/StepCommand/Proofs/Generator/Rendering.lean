import StepCommand.Proofs.Generator.Reading

namespace StepCommand.Generator

open Artifact (Stuck)

variable {σ : Type} [Storage σ] {s after : σ} {g : Generator} {failure : Failure} {path : String}
  {paths : List String} {a : Artifact} {as : List Artifact}

-- The failures that the files, a text or a step is to blame for.
def Expected (paths : List String) (failure : Failure) : Prop :=
  (∃ path cause, failure = .fileSystem path cause) ∨
    (∃ path ∈ paths, ∃ problem, failure = .parse path problem) ∨
      ∃ step : Step, step.Rejects failure

theorem expected_of_write (h : a.write s = (.error failure, after)) :
    Expected paths failure := by
  obtain ⟨_, cause, _, rfl⟩ := Artifact.write_eq_error_iff.mp h
  exact .inl ⟨a.path, cause, rfl⟩

theorem expected_of_stuck (h : Stuck s as failure after) : Expected paths failure := by
  obtain ⟨_, a, _, _, _, _, _, hw⟩ := Artifact.stuck_iff.mp h
  exact expected_of_write hw

theorem expected_of_fails (hp : path ∈ paths) (h : g.Fails path s failure after) :
    Expected paths failure := by
  obtain ⟨hread, _⟩ | ⟨a, _, hs⟩ := h
  · obtain ⟨cause, _, rfl⟩ | ⟨_, problem, _, _, rfl⟩ | ⟨_, step, _, _, hstep⟩ :=
      readAssembly_error hread
    · exact .inl ⟨path, cause, rfl⟩
    · exact .inr (.inl ⟨path, hp, problem, rfl⟩)
    · exact .inr (.inr ⟨step, Step.rejects_of_assemble hstep⟩)
  · exact expected_of_stuck hs

theorem expected_of_process (h : (g.process paths).on s = (.error failure, after)) :
    Expected paths failure := by
  obtain ⟨front, path, rest, _, _, _, rfl, _, hf⟩ | ⟨_, _, _, _, hw⟩ := process_error_iff.mp h
  · exact expected_of_fails (List.mem_append_right _ List.mem_cons_self) hf
  · exact expected_of_write hw

-- All that is written can be filled, and no failure comes from a template.
theorem rendering_total :
    (∀ (step : Step) (exportPrefix : Option String) (a : Assembly),
      step.assemble exportPrefix = .ok a →
        ∀ file ∈ SourceFile.all, ∃ text, file.content a = .ok text) ∧
    (∀ steps : List String, ∃ text,
      Template.fill Source.Registry.fileName .empty Source.Registry.template
        (Source.Registry.record steps) = .ok text) ∧
    (∀ env : Environment, Resource.checkNames env.name env.names = .ok () →
      ∃ text, env.definition = .ok text) ∧
    (∀ metric : Metric, Resource.checkNames metric.name metric.names = .ok () →
      ∃ text, metric.definition = .ok text) ∧
    (∀ (step : Step) (exportPrefix : Option String) (failure : Failure),
      step.assemble exportPrefix = .error failure → step.Rejects failure) ∧
    (∀ (g : Generator) (paths : List String) (disk after : Disk) (failure : Failure),
      (g.process paths).on disk = (.error failure, after) → Expected paths failure) :=
  ⟨fun _ _ a _ _ hf => SourceFile.content_ok hf a, registry_ok,
    fun _ => Environment.definition_of_checkNames, fun _ => Metric.definition_of_checkNames,
    fun _ _ _ => Step.rejects_of_assemble, fun _ _ _ _ _ => expected_of_process⟩

-- A step with a parameter and resources of both kinds; a step and a run that fail.
theorem rendering_total_instance :
    let common : Resource :=
      { name := "common", kind := "piperEnvironment", entries := [{ name := "git/id" }] }
    let data : Resource :=
      { name := "data", kind := "influx",
        entries := [{ name := "build", tags := [{ name := "id" }] }] }
    let step : Step :=
      { name := "build", parameters := [{ name := "tags", kind := "[]string", scope := ["STEPS"] }],
        resources := [common, data] }
    let unnamed : Step := { name := "a b" }
    let env := Environment.ofResource "build" common
    let metric := Metric.ofResource "build" data
    let g : Generator := ⟨"out", none⟩
    let disk : Disk := ⟨.directory [], []⟩
    (∃ a, step.assemble none = .ok a ∧
      ∀ file ∈ SourceFile.all, ∃ text, file.content a = .ok text) ∧
    (Resource.checkNames env.name env.names = .ok () ∧ ∃ text, env.definition = .ok text) ∧
    (Resource.checkNames metric.name metric.names = .ok () ∧
      ∃ text, metric.definition = .ok text) ∧
    (∃ failure, unnamed.assemble none = .error failure ∧ unnamed.Rejects failure) ∧
    (∃ failure, (g.process ["a.yaml"]).on disk = (.error failure, disk) ∧
      Expected ["a.yaml"] failure) := by
  intro common data step unnamed env metric g disk
  obtain ⟨hstep, _, henv, hmetric, hrejects, hprocess⟩ := rendering_total
  have hok : (step.assemble none).isOk = true := by decide +kernel
  obtain ⟨a, ha⟩ : ∃ a, step.assemble none = .ok a := by
    cases h : step.assemble none with
    | ok a => exact ⟨a, rfl⟩
    | error failure => simp [h, Except.isOk, Except.toBool] at hok
  have hnames : Resource.checkNames env.name env.names = .ok () := rfl
  have hmembers : Resource.checkNames metric.name metric.names = .ok () := rfl
  have hunnamed : ({ name := "a b" } : Step).assemble none = .error (.invalidStepName "a b") := rfl
  have hrun : (g.process ["a.yaml"]).on disk =
      (.error (.fileSystem "a.yaml" .notFound), disk) := rfl
  exact ⟨⟨a, ha, hstep step none a ha⟩, ⟨hnames, henv env hnames⟩,
    ⟨hmembers, hmetric metric hmembers⟩, ⟨_, hunnamed, hrejects unnamed none _ hunnamed⟩,
    ⟨_, hrun, hprocess g _ disk disk _ hrun⟩⟩

end StepCommand.Generator
