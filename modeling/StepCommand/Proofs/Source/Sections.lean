import StepCommand.Proofs.Source.Command
import StepCommand.Proofs.Text.Between

namespace StepCommand

open Text (Between InOrder)

def Assembly.definitionsText (a : Assembly) : String :=
  String.join (a.outputs.map fun o => "\n" ++ (o.definition ++ "\n"))

theorem Assembly.inOrder_definitionsText (a : Assembly) :
    InOrder (a.outputs.map Output.definition) a.definitionsText :=
  Between.join_single fun o _ => ((InOrder.self o.definition).extend "\n").prepend "\n"

namespace Source.Command

open Template

theorem render_definitions (a : Assembly) :
    render .step definitions a.toValue = .ok a.definitionsText := by
  have hdefinitions : (forEach "output_resources" ["\n", field "def", "\n"]).fill .step
      (Scope.ofRecord a.toValue) =
      .ok (String.join (a.outputs.map fun o => "\n" ++ (o.definition ++ "\n"))) := by
    refine fill_forEach rfl fun o _ position => ?_
    have hdefinition : (field "def").fill .step ((Scope.ofRecord a.toValue).enter
        ⟨o.toValue, position⟩) = .ok o.definition := fill_field rfl rfl
    simp only [fillAll_cons, fillAll_nil, fill_text, hdefinition, Except.ok_bind,
      String.append_empty]
  rw [render, definitions, fillAll_cons, hdefinitions]
  simp only [fillAll_nil, Except.ok_bind, String.append_empty]
  rfl

inductive Sections (a : Assembly) : String → Prop where
  | parts {head body tail : String}
      (head_eq : render .step imports a.toValue = .ok head)
      (body_eq : render .step constructor a.toValue = .ok body)
      (tail_eq : render .step accessor a.toValue = .ok tail) :
      Sections a (head ++ (a.interface.optionsText a.step.name ++ (a.definitionsText ++
        (body ++ (a.interface.flagsText a.step.name a.flagsName ++ tail)))))

theorem Sections.inOrder_definitions {a : Assembly} {text : String} (h : Sections a text) :
    InOrder (a.outputs.map Output.definition) text := by
  cases h with
  | parts _ _ _ => exact ((a.inOrder_definitionsText.extend _).prepend _).prepend _

theorem exists_sections (a : Assembly) :
    ∃ text, SourceFile.command.content a = .ok text ∧ Sections a text := by
  have hall := fits
  simp only [template, Fits.append_iff] at hall
  obtain ⟨⟨⟨⟨⟨hhead, _⟩, _⟩, hbody⟩, _⟩, htail⟩ := hall
  obtain ⟨head, hhead⟩ := render_of_fits hhead a.shape_admits
  obtain ⟨body, hbody⟩ := render_of_fits hbody a.shape_admits
  obtain ⟨tail, htail⟩ := render_of_fits htail a.shape_admits
  refine ⟨_, ?_, .parts hhead hbody htail⟩
  simp only [SourceFile.content, Template.fill, SourceFile.command, template, render_append, hhead,
    render_options, render_definitions, hbody, render_flags, htail, Except.ok_bind,
    Except.mapError, String.append_assoc]

end Source.Command

end StepCommand
