import StepCommand.Value

namespace StepCommand.Template

-- False, zero, nothing and what is empty count as false, and so does a missing condition.
def isTrue : Option Value → Bool
  | none => false
  | some .null => false
  | some (.bool b) => b
  | some (.int n) => n != 0
  | some (.float x) => x.isNormal
  | some (.text s) => !s.isEmpty
  | some (.list items) => !items.isEmpty
  | some (.object entries) => !entries.isEmpty

mutual

-- An integer is never the same as a number with a fraction.
def same : Value → Value → Bool
  | .null, .null => true
  | .bool a, .bool b => a == b
  | .int m, .int n => m == n
  | .float x, .float y => x.units == y.units
  | .text s, .text t => s == t
  | .list items, .list others => sameItems items others
  | .object entries, .object others => sameEntries entries others
  | _, _ => false

def sameItems : List Value → List Value → Bool
  | [], [] => true
  | item :: rest, other :: others => same item other && sameItems rest others
  | _, _ => false

def sameEntries : List (String × Value) → List (String × Value) → Bool
  | [], [] => true
  | (key, value) :: rest, (other, against) :: others =>
      key == other && same value against && sameEntries rest others
  | _, _ => false

end

-- Numbers are ordered, and so are texts and truth values; all else is in no order.
def order? : Value → Value → Option Ordering
  | .text s, .text t => some (compare s t)
  | .bool a, .bool b => some (compare a.toNat b.toNat)
  | .int m, .int n => some (compare m n)
  | .int n, .float y => some (compare (Double.unitsOf n) y.units)
  | .float x, .int n => some (compare x.units (Double.unitsOf n))
  | .float x, .float y => some (compare x.units y.units)
  | _, _ => none

inductive Comparison where
  | equal
  | unequal
  | greater
  | greaterOrEqual
  | less
  | lessOrEqual
deriving DecidableEq, Repr

def Comparison.holds (c : Comparison) (a b : Value) : Bool :=
  match c, order? a b with
  | equal, _ => same a b
  | unequal, _ => !same a b
  | greater, some o => o == .gt
  | greaterOrEqual, some o => o != .lt
  | less, some o => o == .lt
  | lessOrEqual, some o => o != .gt
  | _, none => false

end StepCommand.Template
