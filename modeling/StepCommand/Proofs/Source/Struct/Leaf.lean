import StepCommand.Proofs.Source.Struct

namespace StepCommand.Source.Struct

-- The names on the way are separated by dots.
structure Leaf where
  path : String
  type : String

mutual

-- `way` leads to the level of the part; it is empty at top level, and ends in a dot elsewhere.
def Part.leavesFrom (way : String) : Part → List Leaf
  | .value name type => [⟨way ++ name, type⟩]
  | .group name members => leavesOf (way ++ (name ++ ".")) members

def leavesOf (way : String) : List Part → List Leaf
  | [] => []
  | part :: rest => part.leavesFrom way ++ leavesOf way rest

end

def leaves (s : Struct) : List Leaf := leavesOf "" s.members

variable {way : String} {members others : List Part}

theorem leavesOf_eq_flatMap :
    leavesOf way members = members.flatMap (Part.leavesFrom way) := by
  induction members with
  | nil => rfl
  | cons part rest ih => rw [leavesOf, ih, List.flatMap_cons]

theorem leavesOf_append :
    leavesOf way (members ++ others) = leavesOf way members ++ leavesOf way others := by
  simp only [leavesOf_eq_flatMap, List.flatMap_append]

theorem leavesOf_map_value {α : Type} (xs : List α) (name type : α → String) :
    leavesOf way (xs.map fun x => .value (name x) (type x)) =
      xs.map fun x => ⟨way ++ name x, type x⟩ := by
  induction xs with
  | nil => rfl
  | cons x rest ih =>
      rw [List.map_cons, List.map_cons, leavesOf, ih]
      rfl

theorem leavesOf_map_group {α : Type} (xs : List α) (name : α → String)
    (inner : α → List Part) :
    leavesOf way (xs.map fun x => .group (name x) (inner x)) =
      xs.flatMap fun x => leavesOf (way ++ (name x ++ ".")) (inner x) := by
  rw [leavesOf_eq_flatMap, List.flatMap_map]
  rfl

end StepCommand.Source.Struct
