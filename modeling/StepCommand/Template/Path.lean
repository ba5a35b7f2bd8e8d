import StepCommand.Template
import StepCommand.Template.Word
import StepCommand.Text.Edit

namespace StepCommand.Template.Path

def isSeparator (c : Char) : Bool := c == '.' || c == '/'

def afterSeparator? : List Char → Option (List Char)
  | c :: rest => if isSeparator c then some rest else none
  | [] => none

-- What follows a text that stands before a separator.
def after? (text : String) (s : List Char) : Option (List Char) :=
  (text.toList.isPrefixOf? s).bind afterSeparator?

-- A name; brackets hold one of any characters.
def name? (s : List Char) : Option (String × List Char) :=
  match s with
  | '[' :: rest => (Text.cutAt ']' rest).map fun (name, rest) => (String.ofList name, rest)
  | _ => symbol? s

-- The names after the first one. A separator without a name behind it is left alone; `fuel`
-- bounds the number of names.
def moreNames : Nat → List Char → List String × List Char
  | 0, s => ([], s)
  | fuel + 1, s =>
      match (afterSeparator? s).bind name? with
      | some (name, rest) =>
          let (names, rest) := moreNames fuel rest
          (name :: names, rest)
      | none => ([], s)

-- How many steps outward a path begins with.
def outward : Nat → List Char → Nat × List Char
  | 0, s => (0, s)
  | fuel + 1, s =>
      match after? ".." s with
      | some rest =>
          let (steps, rest) := outward fuel rest
          (steps + 1, rest)
      | none => (0, s)

-- The value at hand may be named at the beginning without any effect.
def skipThis (s : List Char) : List Char :=
  match after? "this" s with
  | some rest => rest
  | none => ("./".toList.isPrefixOf? s).getD s

-- `marked` tells a position from a value. A position has no members, so that further names do
-- not count; without any name the value at hand is meant.
def targetOf (fromRecord marked : Bool) (steps : Nat) (names : List String) : Target :=
  let names := names.filter (· ≠ "this")
  if fromRecord then .record names
  else
    match marked, names with
    | true, name :: _ => .position steps name
    | true, [] => .value 0 []
    | false, names => .value steps names

def read? (s : List Char) : Option (Path × List Char) := do
  let start := skipThis s
  let (fromRecord, rest) := match after? "@root" start with
    | some rest => (true, rest)
    | none => (false, start)
  let (marked, rest) := match rest with
    | '@' :: rest => (true, rest)
    | _ => (false, rest)
  let (steps, rest) := outward rest.length rest
  let (name, rest) ← name? rest
  let (names, rest) := moreNames rest.length rest
  let text := String.ofList (s.take (s.length - rest.length))
  return (⟨text, targetOf fromRecord marked steps (name :: names)⟩, rest)

end StepCommand.Template.Path
