import StepCommand.Proofs.Generator.Sources
import StepCommand.Proofs.Template.Alike

namespace StepCommand

open Template (Shape ReadsOnly)

def Output.stubShape : Shape := .record [("name", .text), ("object_name", .text)]

def Assembly.stubShape : Shape :=
  .record [("step_name", .text), ("output_resources", .list Output.stubShape)]

def Assembly.nameShape : Shape := .record [("step_name", .text), ("cobra_cmd_func_name", .text)]

theorem SourceFile.stubs_read :
    ReadsOnly commandTest.table commandTest.template Assembly.nameShape ∧
      ∀ file ∈ [implementation, implementationTest],
        ReadsOnly file.table file.template Assembly.stubShape := by
  decide +kernel

-- How an output resource is passed to the functions of a step.
def Output.typedName (o : Output) : String × String := (o.name, o.typeName)

theorem Output.alike_of_typedName {xs ys : List Output}
    (h : xs.map typedName = ys.map typedName) :
    (Shape.list stubShape).Alike (.list (xs.map toValue)) (.list (ys.map toValue)) := by
  refine ⟨_, _, rfl, rfl, ?_⟩
  rw [List.forall₂_map_left_iff, List.forall₂_map_right_iff]
  have hsame : List.Forall₂ Eq (xs.map typedName) (ys.map typedName) := by
    rw [List.forall₂_eq_eq_eq]
    exact h
  rw [List.forall₂_map_left_iff, List.forall₂_map_right_iff] at hsame
  refine hsame.imp fun o p hop => ?_
  obtain ⟨hname, htype⟩ := Prod.mk.inj hop
  exact ⟨_, _, rfl, rfl, rfl, by simp [List.lookup_cons, hname, htype]⟩

variable {a b : Assembly}

theorem Assembly.alike_of_name (h : a.step.name = b.step.name) :
    nameShape.Alike a.toValue b.toValue := by
  have hcommand : a.commandName = b.commandName := by simp only [commandName, title, h]
  exact ⟨_, _, rfl, rfl, rfl, by simp [List.lookup_cons, h, hcommand]⟩

theorem Assembly.alike_of_outputs (h : a.step.name = b.step.name)
    (ho : a.outputs.map Output.typedName = b.outputs.map Output.typedName) :
    stubShape.Alike a.toValue b.toValue := by
  refine ⟨_, _, rfl, rfl, rfl, ?_⟩
  simp [List.lookup_cons, h, Output.alike_of_typedName ho]

-- The file has the same name and the same text.
def SourceFile.IsShared (file : SourceFile) (a b : Assembly) : Prop :=
  file.fileName a.step.name = file.fileName b.step.name ∧
    ∃ text, file.content a = .ok text ∧ file.content b = .ok text

theorem SourceFile.isShared_of_reads {file : SourceFile} {shape : Shape} (hf : file ∈ all)
    (hr : ReadsOnly file.table file.template shape) (hn : a.step.name = b.step.name)
    (h : shape.Alike a.toValue b.toValue) : file.IsShared a b := by
  obtain ⟨text, ha⟩ := content_ok hf a
  refine ⟨by rw [hn], text, ha, ?_⟩
  rw [content, Template.fill, ← hn, ← Template.render_alike hr h]
  exact ha

theorem SourceFile.commandTest_isShared (hn : a.step.name = b.step.name) :
    commandTest.IsShared a b :=
  isShared_of_reads (by simp [all]) stubs_read.1 hn (Assembly.alike_of_name hn)

theorem SourceFile.stub_isShared {file : SourceFile}
    (hfile : file ∈ [implementation, implementationTest]) (hn : a.step.name = b.step.name)
    (ho : a.outputs.map Output.typedName = b.outputs.map Output.typedName) :
    file.IsShared a b := by
  have hall : file ∈ all := List.mem_cons_of_mem _ (List.mem_cons_of_mem _ hfile)
  exact isShared_of_reads hall (stubs_read.2 file hfile) hn (Assembly.alike_of_outputs hn ho)

-- Everything but the command file.
theorem SourceFile.isShared_of_outputs {file : SourceFile} (hfile : file ∈ all)
    (hother : file ≠ command) (hn : a.step.name = b.step.name)
    (ho : a.outputs.map Output.typedName = b.outputs.map Output.typedName) :
    file.IsShared a b := by
  rw [all, List.mem_cons, List.mem_cons] at hfile
  obtain rfl | rfl | hstub := hfile
  · exact absurd rfl hother
  · exact commandTest_isShared hn
  · exact stub_isShared hstub hn ho

-- Neither parameters nor prefixes show in the stubs, and resources only by their names and types.
theorem Step.stubs_of_typedNames {step other : Step} {exportPrefix otherPrefix : Option String}
    (ha : step.assemble exportPrefix = .ok a) (hb : other.assemble otherPrefix = .ok b)
    (hn : step.name = other.name) :
    SourceFile.commandTest.IsShared a b ∧
      (a.outputs.map Output.typedName = b.outputs.map Output.typedName →
        SourceFile.implementation.IsShared a b ∧ SourceFile.implementationTest.IsShared a b) := by
  obtain ⟨rfl, _⟩ := step_of_assemble ha
  obtain ⟨rfl, _⟩ := step_of_assemble hb
  refine ⟨SourceFile.commandTest_isShared hn, fun ho => ⟨?_, ?_⟩⟩
  · exact SourceFile.stub_isShared List.mem_cons_self hn ho
  · exact SourceFile.stub_isShared (List.mem_cons_of_mem _ List.mem_cons_self) hn ho

-- Neither the parameter nor the container shows, and no value that the resource stores.
theorem Step.stubs_of_typedNames_apart :
    let step : Step := {
      name := "deploy"
      description := "Deploys."
      parameters := [{ name := "token", kind := "string", secret := true }]
      resources := [{ name := "env", kind := "piperEnvironment", entries := [{ name := "url" }] },
        { name := "report", kind := "file" }] }
    let other : Step := {
      name := "deploy"
      containers := [{ image := "maven" }]
      resources := [{
        name := "env"
        kind := "piperEnvironment"
        entries := [{ name := "git/commit" }, { name := "git/branch" }] }] }
    ∃ a b, step.assemble none = .ok a ∧ other.assemble (some "piper") = .ok b ∧
      SourceFile.commandTest.IsShared a b ∧ SourceFile.implementation.IsShared a b ∧
      SourceFile.implementationTest.IsShared a b := by
  intro step other
  have hstep : (step.assemble none).toOption.map (fun a => a.outputs.map Output.typedName) =
      some [("env", "deployEnv")] := by
    decide +kernel
  have hother : (other.assemble (some "piper")).toOption.map
      (fun a => a.outputs.map Output.typedName) = some [("env", "deployEnv")] := by
    decide +kernel
  rcases ha : step.assemble none with failure | a
  · simp [ha, Except.toOption] at hstep
  rcases hb : other.assemble (some "piper") with failure | b
  · simp [hb, Except.toOption] at hother
  have houtputs : a.outputs.map Output.typedName = b.outputs.map Output.typedName := by
    simp only [ha, Except.toOption, Option.map_some, Option.some.injEq] at hstep
    simp only [hb, Except.toOption, Option.map_some, Option.some.injEq] at hother
    rw [hstep, hother]
  obtain ⟨htest, hstubs⟩ := Step.stubs_of_typedNames ha hb rfl
  exact ⟨a, b, rfl, rfl, htest, hstubs houtputs⟩

end StepCommand
