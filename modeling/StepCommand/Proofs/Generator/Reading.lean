import Mathlib.Data.List.Forall2
import StepCommand.Proofs.Discovery
import StepCommand.Proofs.Generator.Run

namespace StepCommand.Generator

open Artifact (Written)
open Pathname (EndsInGo)

variable {g : Generator} {a : Assembly} {as : List Assembly} {path : String} {paths : List String}
  {xs : List Artifact} {outcomes : List Outcome} {r : Report}

section Storage

variable {σ : Type} [Storage σ] {s after : σ}

theorem readAssembly_ok_iff :
    g.readAssembly path s = .ok a ↔
      ∃ text step, Storage.readText s path = .ok text ∧ Step.ofYaml text = .ok step ∧
        step.assemble g.exportPrefix = .ok a := by
  simp only [readAssembly, readStep, bind, Except.bind]
  cases Storage.readText s path with
  | error cause => simp
  | ok text =>
      cases hy : Step.ofYaml text with
      | error problem => simp [hy, Except.mapError]
      | ok step => simp [hy, Except.mapError]

theorem readStep_of_readAssembly (h : g.readAssembly path s = .ok a) :
    readStep path s = .ok a.step := by
  rw [readAssembly] at h
  obtain ⟨step, hstep, hassemble⟩ := Except.bind_ok_iff.mp h
  rw [hstep, (Step.step_of_assemble hassemble).1]

-- What stops the reading of a metadata file: the files, the text, or the step in it.
theorem readAssembly_error {failure : Failure} (h : g.readAssembly path s = .error failure) :
    (∃ cause, Storage.readText s path = .error cause ∧ failure = .fileSystem path cause) ∨
      (∃ text problem, Storage.readText s path = .ok text ∧ Step.ofYaml text = .error problem ∧
        failure = .parse path problem) ∨
      ∃ text step, Storage.readText s path = .ok text ∧ Step.ofYaml text = .ok step ∧
        step.assemble g.exportPrefix = .error failure := by
  simp only [readAssembly, readStep, bind, Except.bind] at h
  cases ht : Storage.readText s path with
  | error cause =>
      rw [ht] at h
      cases h
      exact .inl ⟨cause, rfl, rfl⟩
  | ok text =>
      rw [ht] at h
      cases hy : Step.ofYaml text with
      | error problem =>
          simp only [hy, Except.mapError, Except.error.injEq] at h
          exact .inr (.inl ⟨text, problem, rfl, hy, h.symm⟩)
      | ok step =>
          simp only [hy, Except.mapError] at h
          exact .inr (.inr ⟨text, step, rfl, hy, h⟩)

theorem exists_assembly_of_mem
    (h : List.Forall₂ (fun path a => g.readAssembly path s = .ok a) paths as)
    (hpath : path ∈ paths) : ∃ a ∈ as, g.readAssembly path s = .ok a := by
  induction h with
  | nil => exact absurd hpath List.not_mem_nil
  | cons hread _ ih =>
      rcases List.mem_cons.mp hpath with rfl | hpath
      · exact ⟨_, List.mem_cons_self, hread⟩
      · obtain ⟨a, ha, hread⟩ := ih hpath
        exact ⟨a, List.mem_cons_of_mem _ ha, hread⟩

theorem exists_path_of_mem
    (h : List.Forall₂ (fun path a => g.readAssembly path s = .ok a) paths as) (ha : a ∈ as) :
    ∃ path ∈ paths, g.readAssembly path s = .ok a := by
  induction h with
  | nil => exact absurd ha List.not_mem_nil
  | cons hread _ ih =>
      rcases List.mem_cons.mp ha with rfl | ha
      · exact ⟨_, List.mem_cons_self, hread⟩
      · obtain ⟨path, hpath, hread⟩ := ih ha
        exact ⟨path, List.mem_cons_of_mem _ hpath, hread⟩

theorem isSource_of_mem_allSources
    (h : List.Forall₂ (fun path a => g.readAssembly path s = .ok a) paths as) :
    ∀ x ∈ g.allSources as, g.IsSource x := by
  intro x hx
  obtain ⟨a, ha, hx⟩ := List.mem_flatMap.mp hx
  obtain ⟨path, _, hread⟩ := exists_path_of_mem h ha
  exact isSource_of_mem_sources (isIdentifier_of_readAssembly hread) x hx

theorem Processed.written (h : Processed g s paths as outcomes after) :
    Written s (g.allSources as) outcomes after ∧ ∀ x ∈ g.allSources as, g.IsSource x := by
  induction h with
  | nil s => exact ⟨.nil s, by simp [allSources]⟩
  | cons read head tail ih =>
      have hfirst := isSource_of_mem_sources (g := g) (isIdentifier_of_readAssembly read)
      exact ⟨head.append ih.1, List.forall_mem_append.mpr ⟨hfirst, ih.2⟩⟩

end Storage

section Disk

variable {disk mid after : Disk}

theorem readText_iff {text : String} (h : Written disk xs outcomes after)
    (hx : ∀ x ∈ xs, g.IsSource x) (hp : ¬ EndsInGo path) :
    after.readText path = .ok text ↔ disk.readText path = .ok text := by
  refine h.readText_iff fun x hmem heq => ?_
  obtain ⟨front, hlast⟩ := (hx x hmem).last
  exact hp ⟨front, heq.trans hlast⟩

theorem readAssembly_iff (h : Written disk xs outcomes after) (hx : ∀ x ∈ xs, g.IsSource x)
    (hp : ¬ EndsInGo path) :
    g.readAssembly path after = .ok a ↔ g.readAssembly path disk = .ok a := by
  simp only [readAssembly_ok_iff]
  refine exists_congr fun text => exists_congr fun step => and_congr_left' ?_
  exact readText_iff h hx hp

theorem forall₂_readAssembly_iff (h : Written disk xs outcomes after)
    (hx : ∀ x ∈ xs, g.IsSource x) (hp : ∀ path ∈ paths, ¬ EndsInGo path) :
    List.Forall₂ (fun path a => g.readAssembly path after = .ok a) paths as ↔
      List.Forall₂ (fun path a => g.readAssembly path disk = .ok a) paths as := by
  induction paths generalizing as with
  | nil => simp
  | cons path rest ih =>
      cases as with
      | nil => simp
      | cons a as =>
          simp only [List.forall₂_cons, readAssembly_iff h hx (hp path List.mem_cons_self),
            ih fun other hmem => hp other (List.mem_cons_of_mem _ hmem)]

-- The metadata files of a run can be read at its start.
theorem processed_iff (hp : ∀ path ∈ paths, ¬ EndsInGo path) :
    Processed g disk paths as outcomes after ↔
      List.Forall₂ (fun path a => g.readAssembly path disk = .ok a) paths as ∧
        Written disk (g.allSources as) outcomes after := by
  induction paths generalizing disk as outcomes with
  | nil =>
      constructor
      · intro h
        cases h
        exact ⟨.nil, .nil _⟩
      · rintro ⟨h, hw⟩
        cases h
        cases hw
        exact .nil _
  | cons path rest ih =>
      have hrest : ∀ other ∈ rest, ¬ EndsInGo other := fun other hmem =>
        hp other (List.mem_cons_of_mem _ hmem)
      constructor
      · intro h
        cases h with
        | cons hread head tail =>
            obtain ⟨hall, hw⟩ := (ih hrest).mp tail
            have hx := isSource_of_mem_sources (g := g) (isIdentifier_of_readAssembly hread)
            exact ⟨.cons hread ((forall₂_readAssembly_iff head hx hrest).mp hall), head.append hw⟩
      · rintro ⟨hall, hw⟩
        cases hall with
        | cons hread hall =>
            obtain ⟨first, second, mid, rfl, hfirst, hsecond⟩ := hw.of_append
            have hx := isSource_of_mem_sources (g := g) (isIdentifier_of_readAssembly hread)
            exact .cons hread hfirst
              ((ih hrest).mpr ⟨(forall₂_readAssembly_iff hfirst hx hrest).mpr hall, hsecond⟩)

-- A run that succeeds has written the sources of all steps, and the list of the steps after them,
-- even if a metadata file of it is a file that it writes.
theorem exists_written_of_process (h : (g.process paths).on disk = (.ok r, after)) :
    ∃ as first mid, Processed g disk paths as first mid ∧ r.steps = as.map (·.step.name) ∧
      Written disk (g.allSources as ++ [g.list (as.map (·.step.name))]) r.outcomes after ∧
      ∀ x ∈ g.allSources as ++ [g.list (as.map (·.step.name))], g.IsSource x := by
  obtain ⟨as, first, mid, status, hprocessed, hlist, rfl⟩ := process_ok_iff.mp h
  obtain ⟨hsources, hx⟩ := hprocessed.written
  refine ⟨as, first, mid, hprocessed, rfl, hsources.append (.cons hlist (.nil after)), ?_⟩
  exact List.forall_mem_append.mpr ⟨hx, List.forall_mem_singleton.mpr (isSource_list g _)⟩

theorem written_of_process (hp : ∀ path ∈ paths, ¬ EndsInGo path)
    (h : (g.process paths).on disk = (.ok r, after)) :
    ∃ as, List.Forall₂ (fun path a => g.readAssembly path disk = .ok a) paths as ∧
      r.steps = as.map (·.step.name) ∧
      Written disk (g.allSources as ++ [g.list (as.map (·.step.name))]) r.outcomes after ∧
      ∀ x ∈ g.allSources as ++ [g.list (as.map (·.step.name))], g.IsSource x := by
  obtain ⟨as, first, mid, hprocessed, hsteps, hw, hx⟩ := exists_written_of_process h
  exact ⟨as, ((processed_iff hp).mp hprocessed).1, hsteps, hw, hx⟩

-- A metadata file ends a run when it cannot be read, or when one of its sources cannot be written
-- after `part` of them.
inductive Halts (g : Generator) (path : String) (disk after : Disk) :
    List Artifact → Failure → Prop where
  | read {failure : Failure} (h : g.readAssembly path after = .error failure) :
      Halts g path disk after [] failure
  | write {a : Assembly} {part more : List Artifact} {x : Artifact} {failure : Failure}
      (read : g.readAssembly path disk = .ok a) (sources : g.sources a = part ++ x :: more)
      (h : x.write after = (.error failure, after)) : Halts g path disk after part failure

variable {failure : Failure} {part : List Artifact}

theorem halts_of_fails (hpath : ¬ EndsInGo path)
    (hread : List.Forall₂ (fun path a => g.readAssembly path disk = .ok a) paths as)
    (hw : Written disk (g.allSources as) outcomes mid) (h : g.Fails path mid failure after) :
    ∃ part outcomes, Written disk (g.allSources as ++ part) outcomes after ∧
      (∀ x ∈ g.allSources as ++ part, g.IsSource x) ∧ Halts g path disk after part failure := by
  have hx := isSource_of_mem_allSources hread
  obtain ⟨hfail, rfl⟩ | ⟨a, ha, hstuck⟩ := h
  · exact ⟨[], outcomes, by rwa [List.append_nil], by rwa [List.append_nil], .read hfail⟩
  · obtain ⟨part, x, more, second, hpart, hsecond, hwrite⟩ := Artifact.stuck_on_iff.mp hstuck
    refine ⟨part, _, hw.append hsecond, ?_,
      .write ((readAssembly_iff hw hx hpath).mp ha) hpart hwrite⟩
    intro y hy
    rcases List.mem_append.mp hy with hy | hy
    · exact hx y hy
    · exact isSource_of_mem_sources (isIdentifier_of_readAssembly ha) y
        (hpart ▸ List.mem_append_left _ hy)

theorem fails_of_halts (hpath : ¬ EndsInGo path)
    (hw : Written disk (g.allSources as ++ part) outcomes after)
    (hx : ∀ x ∈ g.allSources as, g.IsSource x) (h : Halts g path disk after part failure) :
    ∃ first mid, Written disk (g.allSources as) first mid ∧ g.Fails path mid failure after := by
  cases h with
  | read hfail =>
      rw [List.append_nil] at hw
      exact ⟨outcomes, after, hw, .inl ⟨hfail, rfl⟩⟩
  | write hread hsources hwrite =>
      obtain ⟨first, second, mid, _, hfirst, hsecond⟩ := hw.of_append
      exact ⟨first, mid, hfirst, .inr ⟨_, (readAssembly_iff hfirst hx hpath).mpr hread,
        Artifact.stuck_on_iff.mpr ⟨part, _, _, second, hsources, hsecond, hwrite⟩⟩⟩

end Disk

end StepCommand.Generator
