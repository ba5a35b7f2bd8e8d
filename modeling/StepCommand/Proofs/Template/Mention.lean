import Mathlib.Algebra.GroupWithZero.Nat
import StepCommand.Proofs.Template.Place

namespace StepCommand.Template

open Text (InOrder encoded)

mutual

def Node.literals : Node → List String
  | .text s => [s]
  | .print _ => []
  | .call _ _ => []
  | .ifTrue _ body => literalsOf body
  | .ifFalse _ body => literalsOf body
  | .each _ body => literalsOf body
  | .within _ body => literalsOf body

def literalsOf : Template → List String
  | [] => []
  | node :: rest => node.literals ++ literalsOf rest

end

def occurrences (word : List UInt8) : List UInt8 → Nat
  | [] => 0
  | b :: rest => (if word.isPrefixOf (b :: rest) then 1 else 0) + occurrences word rest

-- How often a word occurs, told from the encoded texts.
def mentions (word : String) (template : Template) : Nat :=
  ((literalsOf template).map fun s => occurrences (encoded word) (encoded s)).sum

mutual

def Node.placeCount : Node → Nat
  | .text _ => 0
  | .print _ => 1
  | .call _ _ => 1
  | .ifTrue _ body => placeCountOf body
  | .ifFalse _ body => placeCountOf body
  | .each _ body => placeCountOf body
  | .within _ body => placeCountOf body

def placeCountOf : Template → Nat
  | [] => 0
  | node :: rest => node.placeCount + placeCountOf rest

end

variable {table : Table} {scope : Scope} {template : Template} {s t : String} {ss : List String}

-- Text that stands in the template stands in what it is filled to.
theorem inOrder_of_mem (h : fillAll table template scope = .ok t) (hs : InOrder ss s)
    (hmem : .text s ∈ template) : InOrder ss t := by
  obtain ⟨before, after, rfl⟩ := List.append_of_mem hmem
  rw [fillAll_append] at h
  obtain ⟨u, _, h⟩ := Except.bind_ok_iff.mp h
  obtain ⟨v, hv, h⟩ := Except.bind_ok_iff.mp h
  rw [fillAll_cons, fill_text, Except.ok_bind] at hv
  obtain ⟨w, _, hv⟩ := Except.bind_ok_iff.mp hv
  rw [← Except.ok.inj h, ← Except.ok.inj hv]
  exact (hs.extend w).prepend u

-- A template without places is filled with its text, whatever it is filled from.
theorem fillAll_texts (table : Table) (ss : List String) (scope : Scope) :
    fillAll table (ss.map .text) scope = .ok (String.join ss) := by
  induction ss with
  | nil => rfl
  | cons s rest ih =>
      rw [List.map_cons, fillAll_cons, fill_text, ih, String.join_cons]
      rfl

end StepCommand.Template
