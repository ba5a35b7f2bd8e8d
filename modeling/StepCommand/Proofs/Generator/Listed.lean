import StepCommand.Proofs.Generator.Order
import StepCommand.Proofs.Source.Registry.Reading
import StepCommand.Proofs.Template.Spelled.Reading
import StepCommand.Proofs.Volume.Artifact

namespace StepCommand.Generator

open Source

variable {g : Generator} {disk mid after : Disk} {paths steps : List String}
  {as : List Assembly} {outcomes : List Outcome} {status : Status}

theorem isIdentifier_of_processed (h : Processed g disk paths as outcomes after) :
    ∀ name ∈ as.map (·.step.name), Name.isIdentifier name = true := by
  induction h with
  | nil disk => exact fun name hname => absurd hname List.not_mem_nil
  | cons hread _ _ ih => exact List.forall_mem_cons.mpr ⟨isIdentifier_of_readAssembly hread, ih⟩

theorem fill_registry (steps : List String) :
    Template.fill Registry.fileName .empty Registry.template (Registry.record steps) =
      .ok (Text.ofLines (Registry.lines steps)) := by
  rw [← Registry.text_eq_ofLines]
  exact Template.fill_ok_iff.mpr (Registry.render_template steps)

theorem content_list (g : Generator) (steps : List String) :
    (g.list steps).content = Text.ofLines (Registry.lines steps) := by
  rw [list_eq, Registry.text_eq_ofLines]

theorem readText_of_write_list (h : (g.list steps).write mid = (.ok status, after)) :
    after.readText (g.path Registry.fileName) = .ok (Text.ofLines (Registry.lines steps)) := by
  have hpolicy : (g.list steps).policy = .overwrite := rfl
  rw [← content_list g steps]
  exact Artifact.readText_of_write hpolicy h

-- At the end of a run every path that leads to the list reads as the list.
theorem readText_of_target? {v after : Volume} {path : String} {target : Location} {r : Report}
    (h : (g.process paths).on v = (.ok r, after)) (hslash : Pathname.endsInSlash path = false)
    (hlist : v.target? (g.path Registry.fileName) = some target)
    (hpath : v.target? path = some target) (hopen : v.closed.lookup target = none) :
    after.readText path = .ok (Text.ofLines (Registry.lines r.steps)) := by
  obtain ⟨as, outcomes, mid, status, hprocessed, hwrite, rfl⟩ := process_ok_iff.mp h
  obtain ⟨hsources, hx⟩ := hprocessed.written
  have hname := (isSource_list g (as.map (·.step.name))).within.namesFile
  have hbefore := hsources.kept (namesFile_of_isSource hx)
  have hkept := hbefore.trans (Artifact.kept_of_write hname hwrite)
  have hentry := Artifact.entryAt_of_write hname hwrite target
  have hleads : mid.target? (g.list (as.map (·.step.name))).path = some target :=
    (hbefore.target? _).trans hlist
  rw [if_pos hleads] at hentry
  refine Volume.readText_ok_iff.mpr ⟨hslash, target, _, (hkept.target? path).trans hpath, hentry,
    hkept.closed ▸ hopen, ?_⟩
  rw [Artifact.bytes, content_list]
  exact Disk.fromUTF8?_toUTF8 _

-- A file that holds no whole document describes no step.
theorem readAssembly_of_broken {v : Volume} {path text : String} (h : v.readText path = .ok text)
    (hbroken : (Yaml.Document.ofText text).broken.isSome = true) :
    ∃ failure, g.readAssembly path v = .error failure := by
  obtain ⟨problem, hproblem⟩ : ∃ problem, Step.ofYaml text = .error problem := by
    obtain ⟨why, hwhy⟩ := Option.isSome_iff_exists.mp hbroken
    rw [Step.ofYaml, Yaml.read]
    cases Step.read 128 [] (Yaml.Document.ofText text).root (Yaml.Document.ofText text) 0 with
    | error problem => exact ⟨problem, rfl⟩
    | ok found =>
        simp only [bind, Except.bind, hwhy]
        exact ⟨_, rfl⟩
  have htext : Storage.readText v path = .ok text := h
  exact ⟨.parse path problem, by simp only [readAssembly, readStep, htext, hproblem]; rfl⟩

-- The list has a line for each step, from which the steps can be told, and at the end of a run that
-- succeeds it lists the steps of the run.
theorem listed_of_process :
    (∀ steps : List String,
      Template.fill Registry.fileName .empty Registry.template (Registry.record steps) =
          .ok (Text.ofLines (Registry.lines steps)) ∧
        Template.fillText Registry.fileName .empty (Text.ofLines Registry.written)
            (Registry.record steps) = .ok (Text.ofLines (Registry.lines steps))) ∧
    (∀ (text : String) (steps : List String), Registry.read? text = some steps ↔
      text = Text.ofLines (Registry.lines steps) ∧
        ∀ name ∈ steps, Name.isIdentifier name = true) ∧
    ∀ (g : Generator) (paths : List String) (disk after : Disk) (r : Report),
      (g.process paths).on disk = (.ok r, after) →
        (∃ as outcomes mid, Processed g disk paths as outcomes mid ∧
          r.steps = as.map (·.step.name)) ∧
        ∃ text, after.readText (g.path Registry.fileName) = .ok text ∧
          Registry.read? text = some r.steps := by
  refine ⟨fun steps => ⟨fill_registry steps, ?_⟩, fun _ _ => Registry.read?_eq_some_iff, ?_⟩
  · rw [Template.fillText_of_spelling? Registry.spelling?_template]
    exact fill_registry steps
  · intro g paths disk after r h
    obtain ⟨as, first, mid, status, hprocessed, hlist, rfl⟩ := process_ok_iff.mp h
    have hnames := isIdentifier_of_processed hprocessed
    exact ⟨⟨as, first, mid, hprocessed, rfl⟩, _, readText_of_write_list hlist,
      Registry.read?_eq_some_iff.mpr ⟨rfl, hnames⟩⟩

-- The source of a step has the path of the list, at which there has been another file before.
theorem listed_of_process_metadata :
    let g : Generator := ⟨"out", none⟩
    let paths := ["a.yaml", "b.yaml", "a.yaml"]
    let disk : Disk := ⟨.directory [
      ("out", .directory [("metadata_generated.go", .file "package cmd".toUTF8)]),
      ("a.yaml", .file "metadata:\n  name: a\n".toUTF8),
      ("b.yaml", .file "metadata:\n  name: metadata\n".toUTF8)], []⟩
    let steps := ["a", "metadata", "a"]
    (∀ name ∈ steps, Name.isIdentifier name = true) ∧
      Registry.read? (Text.ofLines (Registry.lines steps)) = some steps ∧
      ∃ r after, (g.process paths).on disk = (.ok r, after) ∧ r.steps = steps ∧
        ∃ text, after.readText (g.path Registry.fileName) = .ok text ∧
          Registry.read? text = some r.steps := by
  intro g paths disk steps
  obtain ⟨-, hread, hprocess⟩ := listed_of_process
  have hnames : ∀ name ∈ steps, Name.isIdentifier name = true := by decide +kernel
  have hrun : (((g.process paths).on disk).1.toOption.any fun r => r.steps = steps) = true := by
    decide +kernel
  obtain ⟨r, after, h, hresult⟩ := RunOn.exists_ok_of_any hrun
  have hsteps : r.steps = steps := of_decide_eq_true hresult
  exact ⟨hnames, (hread _ steps).mpr ⟨rfl, hnames⟩, r, after, h, hsteps,
    (hprocess g paths disk after r h).2⟩

end StepCommand.Generator
