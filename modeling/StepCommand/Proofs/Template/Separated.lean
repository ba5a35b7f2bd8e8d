import StepCommand.Proofs.Template.Part
import StepCommand.Step.Json

namespace StepCommand.Template

variable {table : Table} {scope : Scope} {part : Template} {name s t : String}

-- The innermost repetition decides, whatever has been repeated before in the same part.
theorem fill_separator {last : Bool} (h : scope.position? 0 "last" = some (.bool last)) :
    (separator s).fill table scope = .ok (if last then "" else s) := by
  have hlast : (Argument.path .last).eval table scope = .ok ⟨some "@last", some (.bool last)⟩ := by
    have hpath : Path.last.eval scope = .ok (some (.bool last)) := congrArg Except.ok h
    rw [Argument.eval, hpath]
    rfl
  rw [separator, Node.fill, hlast]
  simp only [Except.ok_bind, isTrue, fillAll_cons, fillAll_nil, fill_text, String.append_empty]
  cases last <;> rfl

section Repetition

variable {α : Type} {toValue : α → Value} {text : α → String} {xs : List α}

theorem repeated_separated {fill : Frame → Except Fault String}
    (hfill : ∀ x ∈ xs, ∀ first last label,
      fill ⟨toValue x, [("first", .bool first), ("last", .bool last), label]⟩ =
        .ok (text x ++ if last then "" else s))
    (label : Nat → String × Value) (first : Bool) :
    repeated fill first ((xs.map toValue).mapIdx fun i item => (label i, item)) =
      .ok (s.intercalate (xs.map text)) := by
  induction xs generalizing label first with
  | nil => rfl
  | cons x rest ih =>
      have hfirst := hfill x List.mem_cons_self
      have hrest := ih (fun y hy => hfill y (List.mem_cons_of_mem _ hy)) (fun i => label (i + 1))
        false
      rw [List.map_cons, List.mapIdx_cons, repeated, hfirst, Except.ok_bind, hrest]
      cases rest with
      | nil => simp [bind, Except.bind, pure, Except.pure]
      | cons y more => simp [bind, Except.bind, pure, Except.pure, List.mapIdx_cons,
          String.append_assoc]

theorem fill_forEach_separated (part : Template)
    (hvalue : scope.inner.value.field? name = some (.list (xs.map toValue)))
    (hpart : ∀ x ∈ xs, ∀ position,
      fillAll table part (scope.enter ⟨toValue x, position⟩) = .ok (text x)) :
    (forEach name (part ++ [separator s])).fill table scope =
      .ok (s.intercalate (xs.map text)) := by
  rw [forEach, Node.fill, eval_field hvalue]
  refine repeated_separated (fun x hx first last label => ?_) (fun i => ("index", .int i)) true
  have hseparator : (separator s).fill table (scope.enter ⟨toValue x,
      [("first", .bool first), ("last", .bool last), label]⟩) =
      .ok (if last then "" else s) := fill_separator rfl
  simp only [fillAll_append, hpart x hx, fillAll_cons, hseparator, fillAll_nil, Except.ok_bind,
    String.append_empty]

end Repetition

-- An absent text counts as an empty one.
theorem fill_when_field {o : Option String} {before after : String}
    (hname : table.helper? name = none)
    (hvalue : scope.inner.value.field? name = some (Value.ofOption o)) :
    (when name [.text before, field name, .text after]).fill table scope =
      .ok (if o.getD "" = "" then "" else before ++ (o.getD "" ++ after)) := by
  rw [fill_when_isTrue hvalue]
  cases o with
  | none => rfl
  | some s =>
      have hfield : (field name).fill table scope = .ok s := fill_field hname hvalue
      simp only [Value.ofOption, isTrue, Option.getD_some, fillAll_cons, fillAll_nil, fill_text,
        hfield, Except.ok_bind, String.append_empty]
      by_cases hs : s = "" <;> simp [hs]

theorem fill_when_list {α : Type} {toValue : α → Value} {xs : List α} {node : Node}
    {before after : String}
    (hvalue : scope.inner.value.field? name = some (.list (xs.map toValue)))
    (hnode : node.fill table scope = .ok t) :
    (when name [.text before, node, .text after]).fill table scope =
      .ok (if xs = [] then "" else before ++ (t ++ after)) := by
  rw [fill_when_isTrue hvalue]
  simp only [fillAll_cons, fillAll_nil, fill_text, hnode, Except.ok_bind, String.append_empty]
  cases xs <;> rfl

end StepCommand.Template
