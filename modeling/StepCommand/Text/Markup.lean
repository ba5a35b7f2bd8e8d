namespace StepCommand.Text

-- Stars for emphasis, tildes for what is struck out, backquotes for code.
structure Marks where
  bold : Bool := false
  italic : Bool := false
  struckOut : Bool := false
  code : Bool := false
deriving DecidableEq, Repr

-- A part of a line under the same marks.
structure Span where
  marks : Marks
  text : String
deriving DecidableEq, Repr

namespace Marks

def toggleBold (m : Marks) : Marks := { m with bold := !m.bold }

def toggleItalic (m : Marks) : Marks := { m with italic := !m.italic }

def toggleStruckOut (m : Marks) : Marks := { m with struckOut := !m.struckOut }

def toggleCode (m : Marks) : Marks := { m with code := !m.code }

end Marks

-- What a line may be in the middle of. A star or a tilde may be the first of two, and a tilde right
-- after the end of an emphasis does not count as text itself. A backslash keeps the mark after it
-- from being read as one; after a lone star it takes that mark along.
inductive Ahead where
  | none
  | star
  | tilde (asText : Bool)
  | backslash
  | starBackslash
deriving DecidableEq, Repr

-- `text` is what has been read under the present marks, its last character first.
structure Markup where
  marks : Marks := {}
  text : List Char := []
  ahead : Ahead := .none
  spans : List Span := []

namespace Markup

-- Sets apart what has been read so far.
def close (s : Markup) : Markup :=
  let spans := if s.text = [] then s.spans
    else s.spans ++ [⟨s.marks, String.ofList s.text.reverse⟩]
  { s with text := [], ahead := .none, spans }

def push (s : Markup) (c : Char) : Markup := { s with text := c :: s.text }

def mark (s : Markup) (f : Marks → Marks) : Markup := { s with marks := f s.marks }

def await (s : Markup) (ahead : Ahead) : Markup := { s with ahead }

def pushIf (s : Markup) (asText : Bool) (c : Char) : Markup := if asText then s.push c else s

-- What a backslash may stand before.
def marking : List Char := ['*', '~', '|', '`']

def read (s : Markup) (c : Char) : Markup :=
  if s.marks.code then
    if c = '`' then s.close.mark Marks.toggleCode else s.push c
  else
    match s.ahead, c with
    | .none, '*' => s.await .star
    | .none, '~' => s.await (.tilde true)
    | .none, '`' => s.close.mark Marks.toggleCode
    | .none, '\\' => s.await .backslash
    | .none, _ => s.push c
    | .star, '*' => s.close.mark Marks.toggleBold
    | .star, '~' => (s.close.mark Marks.toggleItalic).await (.tilde false)
    | .star, '`' => (s.close.mark Marks.toggleItalic).mark Marks.toggleCode
    | .star, '\\' => ((s.push '*').close.mark Marks.toggleItalic).await .starBackslash
    | .star, _ => (s.close.mark Marks.toggleItalic).push c
    | .tilde _, '~' => s.close.mark Marks.toggleStruckOut
    | .tilde asText, '*' => (s.pushIf asText '~').await .star
    | .tilde asText, '\\' => (s.pushIf asText '~').await .backslash
    | .tilde asText, _ => ((s.pushIf asText '~').push c).await .none
    | .backslash, '\\' => (s.push '\\').close
    | .backslash, _ =>
        if marking.contains c then s.close.push c
        else ((s.push '\\').push c).await .none
    | .starBackslash, '\\' => s.await .none
    | .starBackslash, _ => if marking.contains c then s.await .none else (s.push c).await .none

-- A star that is left over is dropped if it could end the emphasis, and so is a tilde.
def finish (s : Markup) : Markup :=
  match s.ahead with
  | .none | .starBackslash => s.close
  | .star => (s.pushIf (!s.marks.italic) '*').close
  | .tilde asText => (s.pushIf (asText && !s.marks.struckOut) '~').close
  | .backslash => (s.push '\\').close

end Markup

def spans (line : String) : List Span := (line.toList.foldl Markup.read {}).finish.spans

end StepCommand.Text
