import StepCommand.Template.Constant
import StepCommand.Template.Path

namespace StepCommand.Template.Argument

mutual

-- `fuel` bounds the depth and the number of arguments.
def read? : Nat → List Char → Option (Argument × List Char)
  | 0, _ => none
  | fuel + 1, s =>
      if isKeyword s then none
      else
        match Constant.read? s, s with
        | some (value, rest), _ => value.map fun value => (.literal value, rest)
        | none, '(' :: rest => parenthesized? fuel rest
        | none, _ => (Path.read? s).map fun (p, rest) => (.path p, rest)

-- A path in parentheses is the name of a function.
def parenthesized? : Nat → List Char → Option (Argument × List Char)
  | 0, _ => none
  | fuel + 1, s => do
      let (argument, rest) ← match called? fuel (skipSpace s) with
        | some found => some found
        | none => (Path.read? (skipSpace s)).map fun (p, rest) => (.call p.text [], rest)
      match skipSpace rest with
      | ')' :: rest => return (argument, rest)
      | _ => none

-- A name with arguments or options.
def called? : Nat → List Char → Option (Argument × List Char)
  | 0, _ => none
  | fuel + 1, s => do
      let (name, rest) ← identifier? s
      match all fuel (skipSpace rest) with
      | ([], _) => none
      | (items, rest) => return (.call name (items.filterMap id), rest)

-- All arguments that follow, options as none, and what stands after them.
def all : Nat → List Char → List (Option Argument) × List Char
  | 0, s => ([], s)
  | fuel + 1, s =>
      match option? fuel s <|> (read? fuel s).map fun (argument, rest) => (some argument, rest) with
      | some (item, rest) =>
          let (items, rest) := all fuel (skipSpace rest)
          (item :: items, rest)
      | none => ([], s)

-- A name with an equals sign behind it is an option, and no function takes options.
def option? : Nat → List Char → Option (Option Argument × List Char)
  | 0, _ => none
  | fuel + 1, s => do
      let (_, rest) ← identifier? s
      match skipSpace rest with
      | '=' :: rest => (read? fuel (skipSpace rest)).map fun (_, rest) => (none, rest)
      | _ => none

end

-- Enough for any arguments of a text.
def fuelFor (s : List Char) : Nat := 4 * s.length + 4

end StepCommand.Template.Argument
