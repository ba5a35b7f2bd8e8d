import StepCommand.Proofs.Template.Part
import StepCommand.Proofs.Text.Line

namespace StepCommand.Template

open Text (EndsLine HasLines)

-- What the template is filled to has the lines, and ends with the end of a line.
def Yields (table : Table) (scope : Scope) (template : Template) (lines : List String) : Prop :=
  ∀ text, fillAll table template scope = .ok text → HasLines lines text

variable {table : Table} {scope : Scope} {template rest : Template} {lines more : List String}
  {s : String}

theorem endsLine_line (indentation : Nat) (s : String) : EndsLine (line indentation s) := ⟨_, rfl⟩

namespace Yields

theorem of_fillAll (h : fillAll table template scope = .ok s) (hlines : HasLines lines s) :
    Yields table scope template lines := by
  intro text htext
  rw [h] at htext
  exact Except.ok.inj htext ▸ hlines

theorem append (h : Yields table scope template lines) (hrest : Yields table scope rest more) :
    Yields table scope (template ++ rest) (lines ++ more) := by
  intro text htext
  rw [fillAll_append] at htext
  obtain ⟨s, hs, htext⟩ := Except.bind_ok_iff.mp htext
  obtain ⟨t, ht, htext⟩ := Except.bind_ok_iff.mp htext
  exact Except.ok.inj htext ▸ (h s hs).append (hrest t ht)

theorem line (h : fillAll table template scope = .ok (s ++ "\n")) :
    Yields table scope template [s] :=
  of_fillAll h (.single s)

theorem line_blank (h : fillAll table template scope = .ok (s ++ "\n\n")) :
    Yields table scope template [s] := by
  have hblank : s ++ "\n\n" = (s ++ "\n") ++ "\n" := by simp [String.append_assoc]
  have hend : HasLines [] "\n" := .skip ⟨"", String.empty_append.symm⟩
  rw [hblank] at h
  exact of_fillAll h ((HasLines.single s).append hend)

theorem forEach {α : Type} {toValue : α → Value} {xs : List α} {text : α → String} {name : String}
    {part : Template} (hvalue : scope.inner.value.field? name = some (.list (xs.map toValue)))
    (hpart : ∀ x ∈ xs, ∀ position,
      fillAll table part (scope.enter ⟨toValue x, position⟩) = .ok (text x ++ "\n")) :
    Yields table scope [Template.forEach name part] (xs.map text) := by
  refine of_fillAll (s := String.join (xs.map fun x => text x ++ "\n")) ?_ ?_
  · rw [fillAll_cons, fill_forEach hvalue hpart]
    simp only [fillAll_nil, Except.ok_bind, String.append_empty]
  · exact .join_single fun x _ => .single (text x)

-- Whatever comes before it, a text at the end may end a line.
theorem skip (hlast : template.getLast? = some (.text s)) (hs : EndsLine s) :
    Yields table scope template [] := by
  obtain ⟨before, rfl⟩ := List.getLast?_eq_some_iff.mp hlast
  intro text htext
  rw [fillAll_append] at htext
  obtain ⟨t, _, htext⟩ := Except.bind_ok_iff.mp htext
  simp only [fillAll_cons, fillAll_nil, fill_text, Except.ok_bind, String.append_empty,
    Except.ok.injEq] at htext
  exact htext ▸ .skip (hs.prepend t)

end Yields

end StepCommand.Template
