import StepCommand.Yaml.Fault

namespace StepCommand.Yaml

def isBreak (c : Char) : Bool :=
  c == '\r' || c == '\n' || c == '\u0085' || c == '\u2028' || c == '\u2029'

def isSpace (c : Char) : Bool := c == ' ' || c == '\t'

-- The end of the text reads as the character zero, which no text contains.
def isBreakOrEnd (c : Char) : Bool := isBreak c || c == '\x00'

def isSpaceBreakOrEnd (c : Char) : Bool := isSpace c || isBreakOrEnd c

def isNameChar (c : Char) : Bool := c.isAlphanum || c == '_' || c == '-'

def hexValue? (c : Char) : Option Nat :=
  if c.isDigit then some (c.toNat - '0'.toNat)
  else if 'a' ≤ c ∧ c ≤ 'f' then some (c.toNat - 'a'.toNat + 10)
  else if 'A' ≤ c ∧ c ≤ 'F' then some (c.toNat - 'A'.toNat + 10)
  else none

structure Cursor where
  rest : List Char
  mark : Mark

namespace Cursor

def peek (c : Cursor) (n : Nat) : Char := c.rest.getD n '\x00'

-- Passes over `n` characters of the line.
def skip (c : Cursor) (n : Nat) : Cursor := ⟨c.rest.drop n, c.mark.past (c.rest.take n)⟩

-- `p` holds of no line break.
def span (p : Char → Bool) (c : Cursor) : List Char × Cursor :=
  let chars := c.rest.takeWhile p
  (chars, ⟨c.rest.dropWhile p, c.mark.past chars⟩)

def skipWhile (p : Char → Bool) (c : Cursor) : Cursor := (c.span p).2

-- A line break, if one follows, in the form in which it is kept.
def takeBreak (c : Cursor) : List Char × Cursor :=
  match c.rest with
  | '\r' :: '\n' :: rest => (['\n'], ⟨rest, c.mark.nextLine 2⟩)
  | b :: rest =>
      if b == '\r' || b == '\n' || b == '\u0085' then (['\n'], ⟨rest, c.mark.nextLine b.utf8Size⟩)
      else if isBreak b then ([b], ⟨rest, c.mark.nextLine b.utf8Size⟩)
      else ([], c)
  | [] => ([], c)

-- A byte order mark at the start of a line is passed over, but it takes up a column.
def skipByteOrderMark (c : Cursor) : Cursor :=
  if c.mark.column == 0 && c.peek 0 == '\ufeff' then c.skip 1 else c

def skipComment (c : Cursor) : Cursor :=
  if c.peek 0 == '#' then c.skipWhile (!isBreakOrEnd ·) else c

-- `---` or `...` at the start of a line.
def atDocumentIndicator (c : Cursor) : Bool :=
  c.mark.column == 0 && ["---".toList, "...".toList].contains (c.rest.take 3) &&
    isSpaceBreakOrEnd (c.peek 3)

def fail {α : Type} (c : Cursor) (activity : Activity) (start : Mark) (fault : Fault) :
    Except SyntaxError α :=
  .error ⟨fault, c.mark, some (activity, start)⟩

end Cursor

end StepCommand.Yaml
