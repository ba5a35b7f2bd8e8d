import StepCommand.Number.Double

namespace StepCommand

-- Values of no fixed shape: defaults in a step description, and the records that templates are
-- filled from.
inductive Value where
  | null
  | bool (b : Bool)
  | int (n : Int)
  | float (x : Double)
  | text (s : String)
  | list (items : List Value)
  | object (entries : List (String × Value))
deriving Inhabited, Repr

namespace Value

def field? (name : String) : Value → Option Value
  | object entries => entries.lookup name
  | _ => none

-- Keeps the keys ascending; the last value given for a key stands.
def insertEntry (key : String) (value : Value) : List (String × Value) → List (String × Value)
  | [] => [(key, value)]
  | (k, v) :: rest =>
      if key < k then (key, value) :: (k, v) :: rest
      else if key = k then (key, value) :: rest
      else (k, v) :: insertEntry key value rest

def byKey {α : Type} (a b : String × α) : Bool := decide (a.1 ≤ b.1)

mutual

-- Plain text of a value: a list in brackets, a mapping with its keys in order.
def plain : Value → String
  | null => "<nil>"
  | bool b => toString b
  | int n => toString n
  | float x => x.text
  | text s => s
  | list items => "[" ++ " ".intercalate (plainItems items) ++ "]"
  | object entries =>
      "map[" ++ " ".intercalate
        (((plainEntries entries).mergeSort byKey).map fun entry => entry.1 ++ ":" ++ entry.2) ++ "]"

def plainItems : List Value → List String
  | [] => []
  | item :: rest => item.plain :: plainItems rest

def plainEntries : List (String × Value) → List (String × String)
  | [] => []
  | (key, value) :: rest => (key, value.plain) :: plainEntries rest

end

end Value

end StepCommand
