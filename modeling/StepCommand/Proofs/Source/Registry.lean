import StepCommand.Proofs.Template.Mention
import StepCommand.Source.Registry

namespace StepCommand.Source.Registry

open Template

def head : List String := literalsOf (template.take 1)

def entryText (stepName : String) : String :=
  "\t\t\"" ++ (stepName ++ ("\": " ++ (stepName ++ "Metadata(),\n")))

def rest : List String := literalsOf (template.drop 2)

def text (steps : List String) : String :=
  String.join head ++ (String.join (steps.map entryText) ++ String.join rest)

-- The steps come in their order, each with an entry of its own.
theorem render_template (steps : List String) :
    render .empty template (record steps) = .ok (text steps) := by
  have heq : template = head.map Node.text ++
      (([forEach "steps" ["\t\t\"", item, "\": ", item, "Metadata(),\n"]] : Template) ++
        rest.map Node.text) := rfl
  have hentries : (forEach "steps" ["\t\t\"", item, "\": ", item, "Metadata(),\n"]).fill .empty
      (Scope.ofRecord (record steps)) = .ok (String.join (steps.map entryText)) := by
    refine fill_forEach rfl fun name _ position => ?_
    have hitem : item.fill .empty ((Scope.ofRecord (record steps)).enter ⟨.text name, position⟩) =
        .ok name := fill_item rfl rfl
    simp only [fillAll_cons, fillAll_nil, fill_text, hitem, Except.ok_bind, String.append_empty]
    rfl
  rw [render, heq]
  simp only [fillAll_append, fillAll_cons, fillAll_nil, fillAll_texts, hentries, Except.ok_bind,
    String.append_empty]
  rfl

end StepCommand.Source.Registry
