import StepCommand.Proofs.Generator.Sources

namespace StepCommand

variable {σ : Type} {s mid after : σ} {failure : Failure}

namespace RunOn

variable {α β : Type} {x : RunOn σ α} {f : α → RunOn σ β} {v : β}

-- What a run gives, and the files as it leaves them.
def on (x : RunOn σ α) (s : σ) : Except Failure α × σ := x.run s

theorem bind_on (x : RunOn σ α) (f : α → RunOn σ β) (s : σ) :
    (x >>= f).on s =
      match x.on s with
      | (.ok u, mid) => (f u).on mid
      | (.error failure, mid) => (.error failure, mid) := by
  rcases h : x.on s with ⟨result, mid⟩
  have h' : x s = (result, mid) := h
  simp only [on, bind, ExceptT.bind, ExceptT.mk, ExceptT.run, StateT.bind, h']
  cases result <;> rfl

theorem bind_ok_iff :
    (x >>= f).on s = (.ok v, after) ↔
      ∃ u mid, x.on s = (.ok u, mid) ∧ (f u).on mid = (.ok v, after) := by
  rw [bind_on]
  rcases x.on s with ⟨failure | u, mid⟩
  · simp
  · simp

theorem bind_error_iff :
    (x >>= f).on s = (.error failure, after) ↔
      x.on s = (.error failure, after) ∨
        ∃ u mid, x.on s = (.ok u, mid) ∧ (f u).on mid = (.error failure, after) := by
  rw [bind_on]
  rcases x.on s with ⟨other | u, mid⟩
  · simp
  · simp

-- Over fixed files, one fact about the result is evaluated, and the run is had from it.
theorem exists_ok_of_any {p : α → Bool} (h : (x.on s).1.toOption.any p = true) :
    ∃ u after, x.on s = (.ok u, after) ∧ p u = true := by
  rcases hx : x.on s with ⟨failure | u, after⟩
  · simp [hx, Except.toOption] at h
  · exact ⟨u, after, rfl, by simpa [hx, Except.toOption] using h⟩

theorem exists_ok_of_isOk (h : (x.on s).1.isOk = true) :
    ∃ u after, x.on s = (.ok u, after) := by
  rcases hx : x.on s with ⟨failure | u, after⟩
  · simp [hx, Except.isOk, Except.toBool] at h
  · exact ⟨u, after, rfl⟩

theorem exists_error_of_isOk (h : (x.on s).1.isOk = false) :
    ∃ failure after, x.on s = (.error failure, after) := by
  rcases hx : x.on s with ⟨failure | u, after⟩
  · exact ⟨failure, after, rfl⟩
  · simp [hx, Except.isOk, Except.toBool] at h

-- Two runs, one after the other.
theorem exists_ok_error {y : RunOn σ β} (hx : (x.on s).1.isOk = true)
    (hy : (y.on (x.on s).2).1.isOk = false) :
    ∃ u mid failure after, x.on s = (.ok u, mid) ∧ y.on mid = (.error failure, after) := by
  obtain ⟨u, mid, h⟩ := exists_ok_of_isOk hx
  rw [h] at hy
  obtain ⟨failure, after, hfailure⟩ := exists_error_of_isOk hy
  exact ⟨u, mid, failure, after, h, hfailure⟩

theorem get_on (s : σ) : (get : RunOn σ σ).on s = (.ok s, s) := rfl

theorem lift_on (x : Except Failure α) (s : σ) :
    (liftM x : RunOn σ α).on s = (x, s) := rfl

end RunOn

namespace Generator

open Artifact (Written Stuck)

variable [Storage σ] {g : Generator} {a : Assembly} {files : List SourceFile} {r r' : Report}
  {path : String} {paths : List String} {as : List Assembly} {outcomes : List Outcome}

theorem emit_on (a : Artifact) (r : Report) (s : σ) :
    (emit (.ok a) r).on s =
      match a.write s with
      | (.ok status, after) => (.ok (r.addOutcome ⟨a.path, status⟩), after)
      | (.error failure, after) => (.error failure, after) := by
  have hw : RunOn.on (ExceptT.mk a.write) s = a.write s := rfl
  unfold emit
  rw [RunOn.bind_on, RunOn.lift_on]
  simp only
  rw [RunOn.bind_on, hw]
  rcases a.write s with ⟨failure | status, mid⟩ <;> rfl

theorem emit_ok_iff {a : Artifact} :
    (emit (.ok a) r).on s = (.ok r', after) ↔
      ∃ status, a.write s = (.ok status, after) ∧ r' = r.addOutcome ⟨a.path, status⟩ := by
  rw [emit_on]
  rcases a.write s with ⟨failure | status, mid⟩
  · simp
  · simp [and_comm, eq_comm]

theorem emit_error_iff {a : Artifact} :
    (emit (.ok a) r).on s = (.error failure, after) ↔
      a.write s = (.error failure, after) := by
  rw [emit_on]
  rcases a.write s with ⟨failure | status, mid⟩
  · simp
  · simp

theorem emitAll_ok_iff (hf : ∀ file ∈ files, file ∈ SourceFile.all) :
    (emitAll g a files r).on s = (.ok r', after) ↔
      ∃ outcomes, Written s (files.map (g.source a)) outcomes after ∧
        r' = ⟨r.steps, r.outcomes ++ outcomes⟩ := by
  induction files generalizing s r with
  | nil =>
      constructor
      · intro h
        cases h
        exact ⟨[], .nil _, by simp⟩
      · rintro ⟨_, ⟨⟩, rfl⟩
        simp
        rfl
  | cons file rest ih =>
      have hrest : ∀ other ∈ rest, other ∈ SourceFile.all := fun other h =>
        hf other (List.mem_cons_of_mem _ h)
      simp only [emitAll, artifact_eq (hf file List.mem_cons_self), RunOn.bind_ok_iff, emit_ok_iff,
        ih hrest]
      constructor
      · rintro ⟨_, mid, ⟨status, hw, rfl⟩, outcomes, htail, rfl⟩
        exact ⟨_, .cons hw htail, by simp [Report.addOutcome]⟩
      · rintro ⟨_, hw, rfl⟩
        cases hw with
        | cons head tail => exact ⟨_, _, ⟨_, head, rfl⟩, _, tail, by simp [Report.addOutcome]⟩

theorem emitAll_error_iff (hf : ∀ file ∈ files, file ∈ SourceFile.all) :
    (emitAll g a files r).on s = (.error failure, after) ↔
      Stuck s (files.map (g.source a)) failure after := by
  induction files generalizing s r with
  | nil =>
      constructor
      · intro h
        cases h
      · rintro ⟨⟩
  | cons file rest ih =>
      have hrest : ∀ other ∈ rest, other ∈ SourceFile.all := fun other h =>
        hf other (List.mem_cons_of_mem _ h)
      simp only [emitAll, artifact_eq (hf file List.mem_cons_self), RunOn.bind_error_iff,
        emit_ok_iff, emit_error_iff, ih hrest]
      constructor
      · rintro (hw | ⟨_, mid, ⟨status, hw, _⟩, htail⟩)
        · exact .here hw
        · exact .later hw htail
      · intro h
        cases h with
        | here head => exact .inl head
        | later head tail => exact .inr ⟨_, _, ⟨_, head, rfl⟩, tail⟩

-- A metadata file is read when its turn comes.
theorem processFile_on (g : Generator) (path : String) (r : Report) (s : σ) :
    (g.processFile path r).on s =
      match g.readAssembly path s with
      | .ok a =>
          (do return (← emitAll g a SourceFile.all r).addStep a.step.name : RunOn σ Report).on s
      | .error failure => (.error failure, s) := by
  unfold processFile
  rw [RunOn.bind_on, RunOn.get_on]
  simp only
  rw [RunOn.bind_on, RunOn.lift_on]
  cases g.readAssembly path s <;> rfl

theorem processFile_ok_iff :
    (g.processFile path r).on s = (.ok r', after) ↔
      ∃ a outcomes, g.readAssembly path s = .ok a ∧ Written s (g.sources a) outcomes after ∧
        r' = ⟨r.steps ++ [a.step.name], r.outcomes ++ outcomes⟩ := by
  rw [processFile_on]
  cases g.readAssembly path s with
  | error cause => simp
  | ok a =>
      simp only [RunOn.bind_ok_iff, emitAll_ok_iff fun _ h => h, Except.ok.injEq]
      constructor
      · rintro ⟨_, mid, ⟨outcomes, hw, rfl⟩, hr⟩
        cases hr
        exact ⟨a, outcomes, rfl, hw, rfl⟩
      · rintro ⟨_, outcomes, rfl, hw, rfl⟩
        exact ⟨_, after, ⟨outcomes, hw, rfl⟩, rfl⟩

-- Why a metadata file ends a run.
def Fails (g : Generator) (path : String) (s : σ) (failure : Failure) (after : σ) : Prop :=
  (g.readAssembly path s = .error failure ∧ after = s) ∨
    ∃ a, g.readAssembly path s = .ok a ∧ Stuck s (g.sources a) failure after

theorem processFile_error_iff :
    (g.processFile path r).on s = (.error failure, after) ↔
      g.Fails path s failure after := by
  rw [processFile_on, Fails]
  cases g.readAssembly path s with
  | error cause => simp [eq_comm]
  | ok a =>
      simp only [RunOn.bind_error_iff, emitAll_error_iff fun _ h => h, Except.ok.injEq,
        reduceCtorEq, false_and, false_or, exists_eq_left']
      constructor
      · rintro (h | ⟨_, _, _, h⟩)
        · exact h
        · cases h
      · exact .inl

-- Each metadata file meets what the files before it have left.
inductive Processed (g : Generator) :
    σ → List String → List Assembly → List Outcome → σ → Prop where
  | nil (s : σ) : Processed g s [] [] [] s
  | cons {s mid after : σ} {path : String} {paths : List String} {a : Assembly}
      {as : List Assembly} {first rest : List Outcome} (read : g.readAssembly path s = .ok a)
      (head : Written s (g.sources a) first mid) (tail : Processed g mid paths as rest after) :
      Processed g s (path :: paths) (a :: as) (first ++ rest) after

theorem processAll_ok_iff :
    (g.processAll paths r).on s = (.ok r', after) ↔
      ∃ as outcomes, Processed g s paths as outcomes after ∧
        r' = ⟨r.steps ++ as.map (·.step.name), r.outcomes ++ outcomes⟩ := by
  induction paths generalizing s r with
  | nil =>
      constructor
      · intro h
        cases h
        exact ⟨[], [], .nil _, by simp⟩
      · rintro ⟨_, _, ⟨⟩, rfl⟩
        simp
        rfl
  | cons path rest ih =>
      simp only [processAll, RunOn.bind_ok_iff, processFile_ok_iff, ih]
      constructor
      · rintro ⟨_, mid, ⟨a, first, hread, hw, rfl⟩, as, outcomes, htail, rfl⟩
        exact ⟨a :: as, first ++ outcomes, .cons hread hw htail, by simp⟩
      · rintro ⟨_, _, hp, rfl⟩
        cases hp with
        | cons hread head tail =>
            exact ⟨_, _, ⟨_, _, hread, head, rfl⟩, _, _, tail, by simp⟩

theorem processAll_error_iff :
    (g.processAll paths r).on s = (.error failure, after) ↔
      ∃ front path rest as outcomes mid, paths = front ++ path :: rest ∧
        Processed g s front as outcomes mid ∧ g.Fails path mid failure after := by
  induction paths generalizing s r with
  | nil =>
      constructor
      · intro h
        cases h
      · rintro ⟨front, path, rest, _, _, _, h, _⟩
        simp at h
  | cons path rest ih =>
      simp only [processAll, RunOn.bind_error_iff, processFile_ok_iff, processFile_error_iff, ih]
      constructor
      · rintro (h | ⟨_, mid, ⟨a, first, hread, hw, _⟩, front, other, more, as, outcomes, last,
          rfl, hp, h⟩)
        · exact ⟨[], path, rest, [], [], s, rfl, .nil s, h⟩
        · exact ⟨path :: front, other, more, a :: as, first ++ outcomes, last, rfl,
            .cons hread hw hp, h⟩
      · rintro ⟨front, other, more, as, outcomes, last, hp, hfront, h⟩
        cases hfront with
        | nil =>
            obtain ⟨rfl, rfl⟩ := List.cons.inj hp
            exact .inl h
        | cons hread head tail =>
            obtain ⟨rfl, rfl⟩ := List.cons.inj hp
            exact .inr ⟨_, _, ⟨_, _, hread, head, rfl⟩, _, _, _, _, _, _, rfl, tail, h⟩

theorem process_ok_iff :
    (g.process paths).on s = (.ok r, after) ↔
      ∃ as first mid status, Processed g s paths as first mid ∧
        (g.list (as.map (·.step.name))).write mid = (.ok status, after) ∧
        r = ⟨as.map (·.step.name),
          first ++ [⟨g.path Source.Registry.fileName, status⟩]⟩ := by
  simp only [process, RunOn.bind_ok_iff, processAll_ok_iff, registry_eq, emit_ok_iff]
  constructor
  · rintro ⟨_, mid, ⟨as, first, hp, rfl⟩, status, hw, rfl⟩
    exact ⟨as, first, mid, status, hp, by simpa using hw, by simp [Report.addOutcome, list]⟩
  · rintro ⟨as, first, mid, status, hp, hw, rfl⟩
    exact ⟨_, mid, ⟨as, first, hp, rfl⟩, status, by simpa using hw, by
      simp [Report.addOutcome, list]⟩

theorem process_error_iff :
    (g.process paths).on s = (.error failure, after) ↔
      (∃ front path rest as outcomes mid, paths = front ++ path :: rest ∧
        Processed g s front as outcomes mid ∧ g.Fails path mid failure after) ∨
      ∃ as outcomes mid, Processed g s paths as outcomes mid ∧
        (g.list (as.map (·.step.name))).write mid = (.error failure, after) := by
  simp only [process, RunOn.bind_error_iff, processAll_ok_iff, processAll_error_iff, registry_eq,
    emit_error_iff]
  refine or_congr_right ?_
  constructor
  · rintro ⟨_, mid, ⟨as, outcomes, hp, rfl⟩, hw⟩
    exact ⟨as, outcomes, mid, hp, by simpa using hw⟩
  · rintro ⟨as, outcomes, mid, hp, hw⟩
    exact ⟨_, mid, ⟨as, outcomes, hp, rfl⟩, by simpa using hw⟩

-- On a disk, nothing is left of a list of the steps that cannot be written.
theorem process_on_error_iff {disk after : Disk} :
    (g.process paths).on disk = (.error failure, after) ↔
      (∃ front path rest as outcomes mid, paths = front ++ path :: rest ∧
        Processed g disk front as outcomes mid ∧ g.Fails path mid failure after) ∨
      ∃ as outcomes, Processed g disk paths as outcomes after ∧
        (g.list (as.map (·.step.name))).write after = (.error failure, after) := by
  rw [process_error_iff]
  refine or_congr_right ?_
  constructor
  · rintro ⟨as, outcomes, mid, hp, hw⟩
    obtain ⟨_, rfl, _⟩ := Artifact.write_error_iff.mp hw
    exact ⟨as, outcomes, hp, hw⟩
  · rintro ⟨as, outcomes, hp, hw⟩
    exact ⟨as, outcomes, after, hp, hw⟩

theorem generate_on (g : Generator) (directory : String) (disk : Disk) :
    (g.generate directory).on disk =
      match Discovery.metadataFiles disk directory with
      | .ok paths => (g.process paths).on disk
      | .error failure => (.error failure, disk) := by
  unfold generate
  rw [RunOn.bind_on, RunOn.get_on]
  simp only
  rw [RunOn.bind_on, RunOn.lift_on]
  cases Discovery.metadataFiles disk directory <;> rfl

end Generator

end StepCommand
