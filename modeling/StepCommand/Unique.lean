namespace StepCommand

variable {α κ : Type} [DecidableEq κ]

-- Leaves out the items whose key is among `seen`, or has been met before.
def uniqueFrom (key : α → κ) (seen : List κ) : List α → List α
  | [] => []
  | item :: rest =>
      if key item ∈ seen then uniqueFrom key seen rest
      else item :: uniqueFrom key (key item :: seen) rest

-- The first item of each key, in their order.
def uniqueBy (key : α → κ) (items : List α) : List α := uniqueFrom key [] items

end StepCommand
