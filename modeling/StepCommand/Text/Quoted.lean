import StepCommand.Text.Class

namespace StepCommand.Text

-- A code point in hexadecimal, between braces.
def codeEscape (c : Char) : List Char :=
  "\\u\x7b".toList ++ Nat.toDigits 16 c.toNat ++ ['\x7d']

def quotedChar (c : Char) : List Char :=
  match c with
  | '\x00' => ['\\', '0']
  | '\t' => ['\\', 't']
  | '\r' => ['\\', 'r']
  | '\n' => ['\\', 'n']
  | '\\' => ['\\', '\\']
  | '"' => ['\\', '"']
  | _ => if isExtender c || !isVisible c then codeEscape c else [c]

-- Between double quotes, with everything that could not be read off the page written as an escape.
def quoted (s : String) : String :=
  "\"" ++ String.ofList (s.toList.flatMap quotedChar) ++ "\""

end StepCommand.Text
