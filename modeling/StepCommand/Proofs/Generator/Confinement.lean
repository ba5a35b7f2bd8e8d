import StepCommand.Proofs.Generator.Reading
import StepCommand.Proofs.Volume.Artifact

namespace StepCommand.Generator

open Artifact (Written Left)
open Discovery (IsMetadataPath)

variable {g : Generator} {v mid after : Volume} {steps : String → Prop} {paths : List String}
  {path : String} {a : Assembly} {as : List Assembly} {x : Artifact} {xs : List Artifact}
  {outcomes : List Outcome} {location : Location} {failure : Failure}

-- A step that a metadata file describes when its turn comes, with a name that may stand in the
-- sources.
def IsStep (g : Generator) (paths : List String) (v : Volume) (name : String) : Prop :=
  Name.isIdentifier name = true ∧
    ∃ front path rest as outcomes turn step, paths = front ++ path :: rest ∧
      Processed g v front as outcomes turn ∧ readStep path turn = .ok step ∧ step.name = name

-- The names of the files that may replace others.
inductive Regenerated (steps : String → Prop) : String → Prop where
  | command {name : String} (h : steps name) : Regenerated steps (name ++ "_generated.go")
  | commandTest {name : String} (h : steps name) : Regenerated steps (name ++ "_generated_test.go")
  | list : Regenerated steps "metadata_generated.go"

-- The names of the files that are only made where nothing is.
inductive Begun (steps : String → Prop) : String → Prop where
  | implementation {name : String} (h : steps name) : Begun steps (name ++ ".go")
  | implementationTest {name : String} (h : steps name) : Begun steps (name ++ "_test.go")

structure Writes (g : Generator) (steps : String → Prop) (x : Artifact) (fileName : String) :
    Prop where
  isName : Pathname.IsName fileName
  ne_dots : fileName ≠ "." ∧ fileName ≠ ".."
  path : x.path = g.path fileName
  policy : x.policy = .overwrite ∧ Regenerated steps fileName ∨
    x.policy = .createOnly ∧ Begun steps fileName

theorem exists_writes_of_mem_sources (hstep : steps a.step.name)
    (hidentifier : Name.isIdentifier a.step.name = true) (hx : x ∈ g.sources a) :
    ∃ fileName, g.Writes steps x fileName := by
  obtain ⟨file, hfile, rfl⟩ := List.mem_map.mp hx
  obtain ⟨hslash, front, hfront⟩ := SourceFile.suffix_of_mem hfile
  have hname : '/' ∉ (file.fileName a.step.name).toList := by
    simp [SourceFile.fileName, Name.slash_notMem hidentifier, hslash]
  have hgo : file.fileName a.step.name = a.step.name ++ front ++ ".go" := by
    simp [SourceFile.fileName, hfront, String.append_assoc]
  obtain ⟨hname, hdots⟩ := isName_of_go hname hgo
  refine ⟨_, hname, hdots, rfl, ?_⟩
  simp only [SourceFile.all, List.mem_cons, List.not_mem_nil, or_false] at hfile
  obtain rfl | rfl | rfl | rfl := hfile
  · exact .inl ⟨rfl, .command hstep⟩
  · exact .inl ⟨rfl, .commandTest hstep⟩
  · exact .inr ⟨rfl, .implementation hstep⟩
  · exact .inr ⟨rfl, .implementationTest hstep⟩

theorem writes_list (g : Generator) (steps : String → Prop) (names : List String) :
    g.Writes steps (g.list names) Source.Registry.fileName := by
  have hgo : Source.Registry.fileName = "metadata_generated" ++ ".go" := rfl
  obtain ⟨hname, hdots⟩ := isName_of_go (by decide) hgo
  exact ⟨hname, hdots, rfl, .inl ⟨rfl, .list⟩⟩

theorem isStep_of_readAssembly {front rest : List String} {turn : Volume}
    (hprocessed : Processed g v front as outcomes turn)
    (hread : g.readAssembly path turn = .ok a) :
    IsStep g (front ++ path :: rest) v a.step.name :=
  ⟨isIdentifier_of_readAssembly hread, front, path, rest, as, outcomes, turn, a.step, rfl,
    hprocessed, readStep_of_readAssembly hread, rfl⟩

-- The assemblies of the files that have been processed were read one after the other.
theorem exists_turn_of_mem (h : Processed g v paths as outcomes after) (ha : a ∈ as) :
    ∃ front path rest earlier first turn, paths = front ++ path :: rest ∧
      Processed g v front earlier first turn ∧ g.readAssembly path turn = .ok a := by
  induction h with
  | nil v => exact absurd ha List.not_mem_nil
  | @cons v mid after path paths b as first rest read head tail ih =>
      rcases List.mem_cons.mp ha with rfl | ha
      · exact ⟨[], path, paths, [], [], v, rfl, .nil v, read⟩
      · obtain ⟨front, other, more, earlier, outcomes, turn, rfl, hprocessed, hread⟩ := ih ha
        exact ⟨path :: front, other, more, b :: earlier, first ++ outcomes, turn, rfl,
          .cons read head hprocessed, hread⟩

theorem exists_writes_of_processed {front rest : List String} (hpaths : paths = front ++ rest)
    (h : Processed g v front as outcomes mid) :
    ∀ x ∈ g.allSources as, ∃ fileName, g.Writes (IsStep g paths v) x fileName := by
  intro x hx
  obtain ⟨a, ha, hx⟩ := List.mem_flatMap.mp hx
  obtain ⟨first, path, more, earlier, others, turn, rfl, hprocessed, hread⟩ :=
    exists_turn_of_mem h ha
  have hstep : IsStep g (first ++ path :: (more ++ rest)) v a.step.name :=
    isStep_of_readAssembly hprocessed hread
  rw [← List.cons_append, ← List.append_assoc, ← hpaths] at hstep
  exact exists_writes_of_mem_sources hstep hstep.1 hx

-- What a run has written, and what it has tried to write last if it failed in this.
structure Wrote (g : Generator) (steps : String → Prop) (v after : Volume) : Prop where
  exists_written : ∃ xs outcomes mid, Written v xs outcomes mid ∧
    (∀ x ∈ xs, ∃ fileName, g.Writes steps x fileName) ∧
    (after = mid ∨ ∃ x fileName failure, g.Writes steps x fileName ∧
      x.write mid = (.error failure, after))

theorem wrote_of_fails {front rest : List String} {turn : Volume}
    (hpaths : paths = front ++ path :: rest) (hprocessed : Processed g v front as outcomes turn)
    (h : g.Fails path turn failure after) : g.Wrote (IsStep g paths v) v after := by
  have hfront := exists_writes_of_processed hpaths hprocessed
  obtain ⟨hread, rfl⟩ | ⟨a, hread, hstuck⟩ := h
  · exact ⟨_, _, after, hprocessed.written.1, hfront, .inl rfl⟩
  · obtain ⟨part, x, more, second, mid, hsplit, hw, hwrite⟩ := Artifact.stuck_iff.mp hstuck
    have hstep : IsStep g paths v a.step.name := hpaths ▸ isStep_of_readAssembly hprocessed hread
    have hsources : ∀ y ∈ part ++ x :: more, ∃ fileName, g.Writes (IsStep g paths v) y fileName :=
      fun y hy => exists_writes_of_mem_sources hstep hstep.1 (hsplit ▸ hy)
    obtain ⟨fileName, hx⟩ := hsources x (List.mem_append_right _ List.mem_cons_self)
    have hpart := fun y hy => hsources y (List.mem_append_left _ hy)
    exact ⟨_, _, mid, hprocessed.written.1.append hw, List.forall_mem_append.mpr ⟨hfront, hpart⟩,
      .inr ⟨x, fileName, failure, hx, hwrite⟩⟩

-- Where a run stops does not matter: up to there it has written such files only.
theorem wrote_of_run {result : Except Failure Report}
    (h : (g.process paths).on v = (result, after)) : g.Wrote (IsStep g paths v) v after := by
  cases result with
  | ok r =>
      obtain ⟨as, first, mid, status, hprocessed, hlist, rfl⟩ := process_ok_iff.mp h
      refine ⟨_, _, after, hprocessed.written.1.append (.cons hlist (.nil after)), ?_, .inl rfl⟩
      have hsources := exists_writes_of_processed (List.append_nil paths).symm hprocessed
      exact List.forall_mem_append.mpr
        ⟨hsources, List.forall_mem_singleton.mpr ⟨_, writes_list g _ _⟩⟩
  | error failure =>
      obtain ⟨front, path, rest, as, outcomes, turn, hpaths, hprocessed, hfails⟩ |
        ⟨as, outcomes, mid, hprocessed, hlist⟩ := process_error_iff.mp h
      · exact wrote_of_fails hpaths hprocessed hfails
      · have hsources := exists_writes_of_processed (List.append_nil paths).symm hprocessed
        exact ⟨_, _, mid, hprocessed.written.1, hsources,
          .inr ⟨_, _, failure, writes_list g _ _, hlist⟩⟩

-- Where a name in the target directory leads. If there is no link of this name, that is right in the
-- directory, and not further down or elsewhere.
structure StandsAt (g : Generator) (v : Volume) (fileName : String) (location : Location) :
    Prop where
  isName : Pathname.IsName fileName
  target : v.target? (g.path fileName) = some location
  folder : ∃ folder, v.folder? g.target = some folder ∧ v.entryAt folder = some .directory ∧
    (v.links.lookup (folder ++ [fileName]) = none → location = folder ++ [fileName])

def Replaces (g : Generator) (steps : String → Prop) (v : Volume) (location : Location) : Prop :=
  ∃ fileName, g.StandsAt v fileName location ∧ Regenerated steps fileName

def Makes (g : Generator) (steps : String → Prop) (v : Volume) (location : Location) : Prop :=
  ∃ fileName, g.StandsAt v fileName location ∧ Begun steps fileName

structure Confined (g : Generator) (steps : String → Prop) (v after : Volume) : Prop where
  wrote : g.Wrote steps v after
  kept : v.Kept after
  changed : ∀ location, after.entryAt location ≠ v.entryAt location →
    g.Replaces steps v location ∨ v.entryAt location = none ∧ g.Makes steps v location

theorem Writes.namesFile {fileName : String} (h : g.Writes steps x fileName) :
    Pathname.NamesFile x.path := by
  have hwithin : x.Within g.target := ⟨fileName, h.isName, h.ne_dots, h.path⟩
  exact hwithin.namesFile

theorem Writes.standsAt {fileName : String} (h : g.Writes steps x fileName)
    (ht : v.target? x.path = some location) : g.StandsAt v fileName location := by
  rw [h.path] at ht
  exact ⟨h.isName, ht, Volume.folder?_of_target?_join h.isName h.ne_dots ht⟩

-- An artifact that is met where something changes has replaced it, or has found nothing there.
theorem Writes.changes {fileName : String} (h : g.Writes steps x fileName)
    (ht : v.target? x.path = some location)
    (hpolicy : x.policy = .overwrite ∨ v.entryAt location = none) :
    g.Replaces steps v location ∨ v.entryAt location = none ∧ g.Makes steps v location := by
  obtain ⟨_, hregenerated⟩ | ⟨hcreate, hbegun⟩ := h.policy
  · exact .inl ⟨fileName, h.standsAt ht, hregenerated⟩
  · rw [hcreate] at hpolicy
    exact .inr ⟨hpolicy.resolve_left (by simp), fileName, h.standsAt ht, hbegun⟩

theorem Wrote.confined (h : g.Wrote steps v after) : g.Confined steps v after := by
  obtain ⟨xs, outcomes, mid, hw, hx, hlast⟩ := h.exists_written
  have hnames : ∀ x ∈ xs, Pathname.NamesFile x.path := by
    intro x hmem
    obtain ⟨fileName, hwrites⟩ := hx x hmem
    exact hwrites.namesFile
  have hmid := hw.kept hnames
  have hchanged : ∀ location, mid.entryAt location ≠ v.entryAt location →
      g.Replaces steps v location ∨ v.entryAt location = none ∧ g.Makes steps v location := by
    intro location hne
    obtain ⟨x, hmem, ht, hpolicy⟩ := hw.exists_of_ne hnames hne
    obtain ⟨fileName, hwrites⟩ := hx x hmem
    exact hwrites.changes ht hpolicy
  obtain rfl | ⟨x, fileName, failure, hwrites, hwrite⟩ := hlast
  · exact ⟨h, hmid, hchanged⟩
  · refine ⟨h, hmid.trans (Artifact.kept_of_write hwrites.namesFile hwrite), fun location hne => ?_⟩
    by_cases hsame : after.entryAt location = mid.entryAt location
    · exact hchanged location (hsame ▸ hne)
    · obtain hnothing | ⟨target, count, ht, _, hmade, hfirst⟩ :=
        Artifact.left_of_write hwrites.namesFile hwrite
      · exact absurd (hnothing location) hsame
      · have hlocation : location = target := by
          by_contra hother
          exact hsame (by rw [hfirst, if_neg hother])
        subst hlocation
        rw [hmid.target?] at ht
        refine hwrites.changes ht ?_
        cases hpolicy : x.policy with
        | overwrite => exact .inl rfl
        | createOnly =>
            refine .inr ?_
            cases hv : v.entryAt location with
            | none => rfl
            | some entry =>
                have hsome := hmid.isSome location (by simp [hv])
                rw [hmade hpolicy] at hsome
                cases hsome

theorem confined_of_run {result : Except Failure Report}
    (h : (g.process paths).on v = (result, after)) : g.Confined (IsStep g paths v) v after :=
  (wrote_of_run h).confined

end StepCommand.Generator
