import StepCommand.Value

namespace StepCommand.Value

-- Controls without a letter of their own are written in four hexadecimal digits.
def escapedChar (c : Char) : List Char :=
  match c with
  | '"' => ['\\', '"']
  | '\\' => ['\\', '\\']
  | '\n' => ['\\', 'n']
  | '\r' => ['\\', 'r']
  | '\t' => ['\\', 't']
  | '\x08' => ['\\', 'b']
  | '\x0c' => ['\\', 'f']
  | _ =>
      if c.toNat < 0x20 then
        ['\\', 'u', '0', '0', Nat.digitChar (c.toNat / 16), Nat.digitChar (c.toNat % 16)]
      else [c]

def jsonText (s : String) : String :=
  "\"" ++ String.ofList (s.toList.flatMap escapedChar) ++ "\""

def indent (depth : Nat) : String := String.ofList (List.replicate (2 * depth) ' ')

-- Puts what is enclosed on lines of its own, one step further in.
def enclosed (depth : Nat) (first last : String) (lines : List String) : String :=
  if lines = [] then first ++ last
  else
    first ++ "\n" ++ ",\n".intercalate (lines.map fun line => indent (depth + 1) ++ line) ++
      "\n" ++ indent depth ++ last

-- An item or an entry on a line of its own, in their order.
mutual

def pretty (depth : Nat) : Value → String
  | null => "null"
  | bool b => toString b
  | int n => toString n
  | float x => x.text
  | text s => jsonText s
  | list items => enclosed depth "[" "]" (prettyItems (depth + 1) items)
  | object entries => enclosed depth "\x7b" "\x7d" (prettyEntries (depth + 1) entries)

def prettyItems (depth : Nat) : List Value → List String
  | [] => []
  | item :: rest => pretty depth item :: prettyItems depth rest

def prettyEntries (depth : Nat) : List (String × Value) → List String
  | [] => []
  | (key, value) :: rest =>
      (jsonText key ++ ": " ++ pretty depth value) :: prettyEntries depth rest

end

end StepCommand.Value
