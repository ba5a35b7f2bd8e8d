import StepCommand.Text.Edit
import StepCommand.Text.Markup

namespace StepCommand.CommandLine.Terminal

open Text (Marks Span)

-- A sequence that sets the parameters of the characters that follow.
def select (parameters : String) : String := "\x1b[" ++ parameters ++ "m"

def attributes (m : Marks) : String :=
  (if m.bold then select "1" else "") ++ (if m.italic then select "3" else "") ++
    if m.struckOut then select "9" else ""

def codeColors : String := select "48;5;238" ++ select "38;5;11"

-- To reset the attributes resets the colours as well.
def reset (m : Marks) : String :=
  if m.bold || m.italic || m.struckOut then select "0"
  else if m.code then select "49" ++ select "39"
  else ""

-- An ellipsis on its own is never styled.
def span (s : Span) : String :=
  if s.text = "…" then s.text
  else (if s.marks.code then codeColors else "") ++ attributes s.marks ++ s.text ++ reset s.marks

def line (s : String) : String :=
  if s.toList.head? = some '#' then select "34" ++ s ++ select "0"
  else String.join ((Text.spans s).map span)

-- Headings are blue, and the marks in a line are shown as attributes.
def page (s : String) : String := String.join ((Text.lines s).map fun l => line l ++ "\n")

end StepCommand.CommandLine.Terminal
