import StepCommand.Template
import StepCommand.Template.Helper

namespace StepCommand.Template

-- A value, and where a repeated part stands that has come to it.
structure Frame where
  value : Value
  position : List (String × Value) := []

-- The whole record, and the values that the parts around a place have come to.
structure Scope where
  record : Value
  inner : Frame
  outer : List Frame := []

namespace Scope

def ofRecord (record : Value) : Scope where
  record := record
  inner := { value := record }

def enter (s : Scope) (frame : Frame) : Scope := ⟨s.record, frame, s.inner :: s.outer⟩

def frame? (s : Scope) (outward : Nat) : Option Frame := (s.inner :: s.outer)[outward]?

-- There is no way further out than the outermost value; the one at hand stands in.
def value (s : Scope) (outward : Nat) : Value := ((s.frame? outward).getD s.inner).value

def position? (s : Scope) (outward : Nat) (name : String) : Option Value :=
  (s.frame? outward).bind fun frame => frame.position.lookup name

end Scope

-- Items are counted by the integers of one machine word.
def index? (name : String) : Option Nat :=
  let digits := match name.toList with
    | '+' :: rest => rest
    | s => s
  if digits.isEmpty || !digits.all Char.isDigit then none
  else
    let n := Double.digitsValue digits
    if n < 0x10000000000000000 then some n else none

-- A field of a record or an item of a list.
def member (name : String) : Value → Except Fault (Option Value)
  | .object entries => .ok (entries.lookup name)
  | .list items =>
      match index? name with
      | some i => .ok items[i]?
      | none => .error (.indexByName name)
  | _ => .ok none

def descend : List String → Value → Except Fault (Option Value)
  | [], value => .ok (some value)
  | name :: rest, value =>
      match member name value with
      | .ok (some inner) => descend rest inner
      | result => result

def Path.eval (scope : Scope) (p : Path) : Except Fault (Option Value) :=
  match p.target with
  | .value outward names => descend names (scope.value outward)
  | .record names => descend names scope.record
  | .position outward name => .ok (scope.position? outward name)

def call (table : Table) (name : String) (given : List Given) : Except Fault Value :=
  match table.helper? name with
  | some helper => helper.apply given
  | none => .error (.unknownHelper name)

mutual

-- Without a value if a path leads nowhere.
def Argument.eval (table : Table) (scope : Scope) : Argument → Except Fault Given
  | .path p => do return ⟨some p.text, ← p.eval scope⟩
  | .literal value => .ok ⟨none, some value⟩
  | .call helper arguments => do
      let given ← Argument.evalAll table scope arguments
      return ⟨none, some (← Template.call table helper given)⟩

def Argument.evalAll (table : Table) (scope : Scope) : List Argument → Except Fault (List Given)
  | [] => .ok []
  | argument :: rest => do
      let given ← Argument.eval table scope argument
      return given :: (← Argument.evalAll table scope rest)

end

mutual

def printed : Value → String
  | .null => ""
  | .bool b => toString b
  | .int n => toString n
  | .float x => x.text
  | .text s => s
  | .list items => "[" ++ ", ".intercalate (printedItems items) ++ "]"
  | .object _ => "[object]"

def printedItems : List Value → List String
  | [] => []
  | item :: rest => printed item :: printedItems rest

end

-- A place that the record has nothing for is an error; a condition may have nothing.
def printGiven (given : Given) : Except Fault String :=
  match given.value with
  | some value => .ok (printed value)
  | none => .error (.missingVariable given.path)

-- What stands alone in its place and is the name of a function calls the function. The name may
-- be what another function gives.
def print (table : Table) (scope : Scope) (argument : Argument) : Except Fault String :=
  match argument with
  | .path p =>
      if (table.helper? p.text).isSome then (call table p.text []).map printed
      else argument.eval table scope >>= printGiven
  | .literal value => .ok (printed value)
  | .call _ _ => do
      let text ← printGiven (← argument.eval table scope)
      if (table.helper? text).isSome then return printed (← call table text []) else return text

def callNode (table : Table) (scope : Scope) (helper : String) (arguments : List Argument) :
    Except Fault String := do
  return printed (← call table helper (← Argument.evalAll table scope arguments))

-- What a part is repeated for, the items of a list or the values of a mapping, each with what
-- names it there.
def itemsOf (given : Given) : Except Fault (List ((String × Value) × Value)) :=
  match given.value with
  | some (.list items) => .ok (items.mapIdx fun i item => (("index", .int i), item))
  | some (.object entries) => .ok (entries.map fun (key, value) => (("key", .text key), value))
  | _ => .error (.missingVariable given.path)

-- One text for each item, telling the first and the last item from the others.
def repeated (fill : Frame → Except Fault String) (first : Bool) :
    List ((String × Value) × Value) → Except Fault String
  | [] => .ok ""
  | (label, item) :: rest => do
      let position := [("first", .bool first), ("last", .bool rest.isEmpty), label]
      let text ← fill ⟨item, position⟩
      return text ++ (← repeated fill false rest)

mutual

def Node.fill (table : Table) : Node → Scope → Except Fault String
  | .text s, _ => .ok s
  | .print argument, scope => print table scope argument
  | .call helper arguments, scope => callNode table scope helper arguments
  | .ifTrue condition body, scope => do
      if isTrue (← condition.eval table scope).value then fillAll table body scope else return ""
  | .ifFalse condition body, scope => do
      if isTrue (← condition.eval table scope).value then return "" else fillAll table body scope
  | .each argument body, scope => do
      let items ← itemsOf (← argument.eval table scope)
      repeated (fun frame => fillAll table body (scope.enter frame)) true items
  | .within argument body, scope => do
      let given ← argument.eval table scope
      match given.value with
      | some value =>
          if isTrue (some value) then fillAll table body (scope.enter { value })
          else throw (.missingVariable given.path)
      | none => throw (.missingVariable given.path)

def fillAll (table : Table) : List Node → Scope → Except Fault String
  | [], _ => .ok ""
  | node :: rest, scope => do
      let first ← node.fill table scope
      return first ++ (← fillAll table rest scope)

end

def render (table : Table) (template : Template) (record : Value) : Except Fault String :=
  fillAll table template (Scope.ofRecord record)

end StepCommand.Template
