import StepCommand.Literal
import StepCommand.Proofs.Value.Balanced

namespace StepCommand.Literal

open Text (IsBalanced delimiters)

variable {name s : String} {texts : List String} {value : Value} {type : ParameterType}

theorem isBalanced_rawString (h : IsBalanced s) : IsBalanced (rawString s) := by
  have hquote : IsBalanced "`" := by decide
  exact (hquote.append h).append hquote

theorem isBalanced_stringList (h : ∀ s ∈ texts, IsBalanced s) : IsBalanced (stringList texts) := by
  have htype : IsBalanced "[]string" := by decide
  have hopening : "[]string\x7b" = "[]string" ++ "\x7b" := by decide
  have hitems : IsBalanced (", ".intercalate (texts.map rawString)) := by
    refine .intercalate (by decide) fun t ht => ?_
    obtain ⟨s, hs, rfl⟩ := List.mem_map.mp ht
    exact isBalanced_rawString (h s hs)
  have hgroup : IsBalanced ("\x7b" ++ ", ".intercalate (texts.map rawString) ++ "\x7d") :=
    .group .curly rfl rfl hitems
  rw [String.append_assoc] at hgroup
  rw [stringList, hopening, String.append_assoc, String.append_assoc]
  exact htype.append hgroup

theorem isBalanced_itemTexts (h : value.IsBalanced) : ∀ s ∈ itemTexts value, IsBalanced s := by
  unfold itemTexts
  split
  next items =>
    intro s hs
    obtain ⟨item, hi, rfl⟩ := List.mem_map.mp hs
    exact ((Value.isBalanced_list items).mp h item hi).plain
  next =>
    intro s hs
    obtain rfl := List.mem_singleton.mp hs
    exact h.plain

theorem isBalanced_truth (value : Value) : IsBalanced (truth value) := by
  unfold truth
  split <;> decide

theorem isBalanced_undeclared (h : IsBalanced name) : IsBalanced (undeclared name type).text := by
  have hfalse : IsBalanced "false" := by decide
  have hzero : IsBalanced "0" := by decide
  cases type with
  | bool => exact hfalse
  | int => exact hzero
  | string => exact .group .round (by decide) rfl h
  | stringList => exact isBalanced_stringList fun s hs => absurd hs List.not_mem_nil

theorem isBalanced_declared (h : value.IsBalanced) : IsBalanced (declared value type).text := by
  cases type with
  | bool => exact isBalanced_truth value
  | int => exact h.plain
  | string => exact isBalanced_rawString h.plain
  | stringList => exact isBalanced_stringList (isBalanced_itemTexts h)

theorem isBalanced_ofDefault {default : Option Value} (hname : IsBalanced name)
    (hdefault : ∀ value ∈ default, value.IsBalanced) :
    IsBalanced (ofDefault name type default).text := by
  cases default with
  | none => exact isBalanced_undeclared hname
  | some value => exact isBalanced_declared (hdefault value rfl)

end StepCommand.Literal
