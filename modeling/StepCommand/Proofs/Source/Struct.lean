import Mathlib.Data.List.Nodup
import StepCommand.Template.Build

namespace StepCommand.Source

open Template (tabs)

inductive Struct.Part where
  | value (name type : String)
  | group (name : String) (members : List Struct.Part)

structure Struct where
  name : String
  members : List Struct.Part

namespace Struct

def Part.name : Part → String
  | value name _ => name
  | group name _ => name

mutual

def Part.text (depth : Nat) : Part → String
  | .value name type => tabs depth ++ (name ++ (" " ++ (type ++ "\n")))
  | .group name members =>
      tabs depth ++ (name ++ (" struct \x7b\n" ++ (textOf (depth + 1) members ++
        (tabs depth ++ "\x7d\n"))))

def textOf (depth : Nat) : List Part → String
  | [] => ""
  | part :: rest => part.text depth ++ textOf depth rest

end

def text (s : Struct) : String :=
  "type " ++ (s.name ++ (" struct \x7b\n" ++ (textOf 1 s.members ++ "\x7d\n")))

mutual

-- The levels inside a member are in order.
def Part.IsDistinct : Part → Prop
  | .value _ _ => True
  | .group _ members => (members.map Part.name).Nodup ∧ AreDistinct members

def AreDistinct : List Part → Prop
  | [] => True
  | part :: rest => part.IsDistinct ∧ AreDistinct rest

end

-- The members of a type have different names, and so have those of each member.
def IsDistinct (s : Struct) : Prop := (s.members.map Part.name).Nodup ∧ AreDistinct s.members

variable {depth : Nat} {members others : List Part} {name : String}

theorem textOf_eq_join (depth : Nat) (members : List Part) :
    textOf depth members = String.join (members.map (Part.text depth)) := by
  induction members with
  | nil => rfl
  | cons part rest ih => rw [textOf, ih, List.map_cons, String.join_cons]

theorem textOf_append : textOf depth (members ++ others) =
    textOf depth members ++ textOf depth others := by
  simp only [textOf_eq_join, List.map_append, String.join_append]

theorem areDistinct_iff : AreDistinct members ↔ ∀ part ∈ members, part.IsDistinct := by
  induction members with
  | nil => simp [AreDistinct]
  | cons part rest ih => simp [AreDistinct, ih]

theorem areDistinct_append :
    AreDistinct (members ++ others) ↔ AreDistinct members ∧ AreDistinct others := by
  simp only [areDistinct_iff, List.forall_mem_append]

theorem areDistinct_of_values {α : Type} (xs : List α) (name type : α → String) :
    AreDistinct (xs.map fun x => .value (name x) (type x)) := by
  rw [areDistinct_iff, List.forall_mem_map]
  intro x _
  trivial

theorem areDistinct_map_group {α : Type} {xs : List α} {name : α → String}
    {inner : α → List Part} :
    AreDistinct (xs.map fun x => .group (name x) (inner x)) ↔
      ∀ x ∈ xs, ((inner x).map Part.name).Nodup ∧ AreDistinct (inner x) := by
  rw [areDistinct_iff, List.forall_mem_map]
  rfl

end Struct

end StepCommand.Source
