import StepCommand.Generator
import StepCommand.Proofs.Artifact.Settled
import StepCommand.Proofs.Assembly

namespace StepCommand

namespace SourceFile

variable {file : SourceFile}

theorem content_ok (h : file ∈ all) (a : Assembly) : ∃ text, file.content a = .ok text :=
  Template.fill_of_fits _ (forall_fits file h) a.shape_admits

def text (file : SourceFile) (a : Assembly) : String := (file.content a).toOption.getD ""

theorem content_eq (h : file ∈ all) (a : Assembly) : file.content a = .ok (file.text a) := by
  obtain ⟨text, ht⟩ := content_ok h a
  simp [SourceFile.text, ht, Except.toOption]

theorem suffix_of_mem (h : file ∈ all) :
    '/' ∉ file.suffix.toList ∧ ∃ front, file.suffix = front ++ ".go" := by
  simp only [all, List.mem_cons, List.not_mem_nil, or_false] at h
  obtain rfl | rfl | rfl | rfl := h
  · exact ⟨by decide, "_generated", rfl⟩
  · exact ⟨by decide, "_generated_test", rfl⟩
  · exact ⟨by decide, "", rfl⟩
  · exact ⟨by decide, "_test", rfl⟩

end SourceFile

theorem Name.slash_notMem {name : String} (h : isIdentifier name = true) : '/' ∉ name.toList := by
  have hword : Text.isWordChar '/' = false := by decide +kernel
  have hletter : Text.isAlphabetic '/' = false := by decide +kernel
  unfold isIdentifier at h
  split at h
  next => cases h
  next first rest hl =>
    simp only [Bool.and_eq_true, Bool.or_eq_true, beq_iff_eq, List.all_eq_true] at h
    rw [hl]
    rintro hmem
    rcases List.mem_cons.mp hmem with rfl | hmem
    · simp [hletter] at h
    · have := h.2 _ hmem
      simp [hword] at this

namespace Generator

variable {g : Generator} {a : Assembly} {file : SourceFile} {path : String}

def source (g : Generator) (a : Assembly) (file : SourceFile) : Artifact :=
  ⟨g.path (file.fileName a.step.name), file.text a, file.policy⟩

def sources (g : Generator) (a : Assembly) : List Artifact := SourceFile.all.map (g.source a)

theorem artifact_eq (h : file ∈ SourceFile.all) (g : Generator) (a : Assembly) :
    g.artifact file a = .ok (g.source a file) := by
  simp only [artifact, SourceFile.content_eq h, bind, Except.bind, pure, Except.pure, source]

theorem map_artifact (g : Generator) (a : Assembly) :
    SourceFile.all.map (fun file => g.artifact file a) = (g.sources a).map .ok := by
  rw [sources, List.map_map]
  exact List.map_congr_left fun file h => artifact_eq h g a

theorem registry_ok (steps : List String) : ∃ text,
    Template.fill Source.Registry.fileName .empty Source.Registry.template
      (Source.Registry.record steps) = .ok text :=
  Template.fill_of_fits _ Source.Registry.fits (Source.Registry.shape_admits steps)

theorem exists_registry (g : Generator) (steps : List String) :
    ∃ text, g.registry steps = .ok ⟨g.path Source.Registry.fileName, text, .overwrite⟩ := by
  obtain ⟨text, h⟩ := registry_ok steps
  exact ⟨text, by simp only [registry, h, bind, Except.bind, pure, Except.pure]⟩

-- The list of the steps, as a file.
def list (g : Generator) (steps : List String) : Artifact :=
  ⟨g.path Source.Registry.fileName,
    (g.registry steps).toOption.elim "" Artifact.content, .overwrite⟩

theorem registry_eq (g : Generator) (steps : List String) :
    g.registry steps = .ok (g.list steps) := by
  obtain ⟨text, h⟩ := exists_registry g steps
  simp [list, h, Except.toOption]

-- All that is written for a list of steps, without the list itself.
def allSources (g : Generator) (as : List Assembly) : List Artifact := as.flatMap g.sources

theorem map_allSources (g : Generator) (as : List Assembly) :
    (g.allSources as).map .ok =
      as.flatMap fun a => SourceFile.all.map fun file => g.artifact file a := by
  simp only [allSources, List.map_flatMap, map_artifact]

theorem isName_of_go {name front : String} (hslash : '/' ∉ name.toList)
    (h : name = front ++ ".go") : Pathname.IsName name ∧ name ≠ "." ∧ name ≠ ".." := by
  have hlast : name.toList.getLast? = some 'o' := by simp [h, List.getLast?_append]
  have hne : ∀ {other : String}, other.toList.getLast? ≠ some 'o' → name ≠ other := by
    rintro other ho rfl
    exact ho hlast
  exact ⟨⟨hne (by decide), hslash⟩, hne (by decide), hne (by decide)⟩

-- Where a generated file stands.
structure IsSource (g : Generator) (a : Artifact) : Prop where
  within : a.Within g.target
  last : Pathname.EndsInGo a.path

theorem namesFile_of_isSource {xs : List Artifact} (h : ∀ x ∈ xs, g.IsSource x) :
    ∀ x ∈ xs, Pathname.NamesFile x.path := fun x hx => (h x hx).within.namesFile

theorem isSource_of_go {name : String} (g : Generator) (front content : String) (policy : Policy)
    (hslash : '/' ∉ name.toList) (h : name = front ++ ".go") :
    g.IsSource ⟨g.path name, content, policy⟩ := by
  obtain ⟨hname, hdots⟩ := isName_of_go hslash h
  refine ⟨⟨name, hname, hdots, rfl⟩, front, ?_⟩
  rw [Generator.path, Pathname.names_join _ hname, List.getLast?_concat, h]

theorem isSource_source (ha : Name.isIdentifier a.step.name = true)
    (hf : file ∈ SourceFile.all) : g.IsSource (g.source a file) := by
  obtain ⟨hslash, front, hfront⟩ := SourceFile.suffix_of_mem hf
  refine isSource_of_go g (a.step.name ++ front) _ _ ?_ ?_
  · simp [SourceFile.fileName, Name.slash_notMem ha, hslash]
  · simp [SourceFile.fileName, hfront, String.append_assoc]

theorem isSource_list (g : Generator) (steps : List String) : g.IsSource (g.list steps) :=
  isSource_of_go g "metadata_generated" _ _ (by decide) rfl

theorem isSource_of_mem_sources (ha : Name.isIdentifier a.step.name = true) :
    ∀ x ∈ g.sources a, g.IsSource x := by
  intro x hx
  obtain ⟨file, hf, rfl⟩ := List.mem_map.mp hx
  exact isSource_source ha hf

theorem isIdentifier_of_readAssembly {σ : Type} [Storage σ] {s : σ}
    (h : g.readAssembly path s = .ok a) : Name.isIdentifier a.step.name = true := by
  simp only [readAssembly] at h
  cases hs : readStep path s with
  | error failure => simp [hs, bind, Except.bind] at h
  | ok step =>
      simp only [hs, bind, Except.bind] at h
      obtain ⟨rfl, hi⟩ := Step.step_of_assemble h
      exact hi

end Generator

end StepCommand
