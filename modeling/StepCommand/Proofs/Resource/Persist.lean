import StepCommand.Proofs.Template.Mention

namespace StepCommand.Source

open Template

-- `values` is what is stored, and `line` is written for each of them.
structure Persist where
  opening : String
  head : List String
  values : String
  line : Template
  rest : List String

namespace Persist

variable (p : Persist)

def signature : Template := [
  p.opening, field "struct_name", ") persist(path, resourceName string) \x7b\n"]

def template : Template :=
  p.signature ++ (p.head.map Node.text ++ ([forEach p.values p.line] ++ p.rest.map Node.text))

def text (typeName : String) (lines : List String) : String :=
  p.opening ++ (typeName ++ (") persist(path, resourceName string) \x7b\n" ++
    (String.join p.head ++ (String.join lines ++ String.join p.rest))))

theorem render_template {α : Type} {record : Value} {typeName : String} {xs : List α}
    {toValue : α → Value} {line : α → String}
    (hname : record.field? "struct_name" = some (.text typeName))
    (hvalues : record.field? p.values = some (.list (xs.map toValue)))
    (hline : ∀ x position, fillAll .empty p.line
      ((Scope.ofRecord record).enter ⟨toValue x, position⟩) = .ok (line x)) :
    render .empty p.template record = .ok (p.text typeName (xs.map line)) := by
  have htype : (field "struct_name").fill .empty (Scope.ofRecord record) = .ok typeName :=
    fill_field rfl hname
  have hlines : (forEach p.values p.line).fill .empty (Scope.ofRecord record) =
      .ok (String.join (xs.map line)) :=
    fill_forEach hvalues fun x _ position => hline x position
  rw [render, template, signature]
  simp only [fillAll_append, fillAll_cons, fillAll_nil, fillAll_texts, fill_text, htype, hlines,
    Except.ok_bind, String.append_assoc, String.append_empty]
  rfl

end Persist

end StepCommand.Source
