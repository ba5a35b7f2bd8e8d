import StepCommand.Value

namespace StepCommand

-- What a place refers to: a value inside the one at hand, or inside the one that many parts
-- further out; a value inside the whole record; or where a repeated part stands.
inductive Template.Target where
  | value (outward : Nat) (names : List String)
  | record (names : List String)
  | position (outward : Nat) (name : String)
deriving DecidableEq, Repr

-- A path with its text, which names it in messages and may also be the name of a function.
structure Template.Path where
  text : String
  target : Template.Target
deriving DecidableEq, Repr

inductive Template.Argument where
  | path (p : Template.Path)
  | literal (value : Value)
  | call (helper : String) (arguments : List Template.Argument)
deriving Inhabited, Repr

inductive Template.Node where
  | text (s : String)
  | print (argument : Template.Argument)
  | call (helper : String) (arguments : List Template.Argument)
  | ifTrue (condition : Template.Argument) (body : List Template.Node)
  | ifFalse (condition : Template.Argument) (body : List Template.Node)
  | each (items : Template.Argument) (body : List Template.Node)
  | within (value : Template.Argument) (body : List Template.Node)
deriving Inhabited, Repr

abbrev Template := List Template.Node

end StepCommand
