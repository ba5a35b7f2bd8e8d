namespace StepCommand.Text

-- Sets of code points, in ascending order.
abbrev Intervals := List (Nat × Nat)

-- The intervals ascend, so the search ends at the first one that starts too far on.
def Intervals.contains : Intervals → Nat → Bool
  | [], _ => false
  | (first, last) :: rest, n =>
      if n < first then false else decide (n ≤ last) || contains rest n

end StepCommand.Text
