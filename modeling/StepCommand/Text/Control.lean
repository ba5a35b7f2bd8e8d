namespace StepCommand.Text

namespace Control

-- What a text may be in the middle of: an escape, a control sequence, a string for a device, a
-- command to the system, or a string that nobody reads.
inductive State where
  | ground
  | escape
  | escapeIntermediate
  | sequence
  | parameter
  | intermediate
  | ignored
  | device
  | deviceParameter
  | deviceIntermediate
  | command
  | string
deriving DecidableEq, Repr

def isIntermediate (c : Char) : Bool := ' ' ≤ c && c ≤ '/'

def isParameter (c : Char) : Bool := '0' ≤ c && c ≤ '?'

def isDigit (c : Char) : Bool := '0' ≤ c && c ≤ ';'

def isFinal (c : Char) : Bool := '@' ≤ c && c ≤ '~'

-- Blanks other than the space are controls that are shown.
def isBlank (c : Char) : Bool := c == '\t' || c == '\n' || c == '\x0c' || c == '\r'

def isAscii (c : Char) : Bool := c.toNat < 0x80

-- A string may end inside a character: one of its octets may be the end mark.
def hasEndOctet (c : Char) : Bool := (String.singleton c).toUTF8.toList.contains 0x9c

namespace State

def afterEscape (c : Char) : State :=
  if isIntermediate c then escapeIntermediate
  else if c = '[' then sequence
  else if c = ']' then command
  else if c = 'P' then device
  else if c = 'X' || c = '^' || c = '_' then string
  else if isParameter c || isFinal c then ground
  else escape

-- Where a character that is not shown leads. Two controls break off whatever stands open, and
-- an escape begins anew.
def next (s : State) (c : Char) : State :=
  if c = '\x18' || c = '\x1a' then ground
  else if c = '\x1b' then escape
  else
    match s with
    | ground => ground
    | escape => afterEscape c
    | escapeIntermediate => if isParameter c || isFinal c then ground else escapeIntermediate
    | sequence =>
        if isIntermediate c then intermediate
        else if isParameter c then parameter
        else if isFinal c then ground
        else sequence
    | parameter =>
        if isIntermediate c then intermediate
        else if isDigit c then parameter
        else if isParameter c then ignored
        else if isFinal c then ground
        else parameter
    | intermediate =>
        if isParameter c then ignored else if isFinal c then ground else intermediate
    | ignored => if isFinal c then ground else ignored
    | device =>
        if isIntermediate c then deviceIntermediate
        else if isParameter c then deviceParameter
        else if isFinal c then string
        else device
    | deviceParameter =>
        if isIntermediate c then deviceIntermediate
        else if isDigit c then deviceParameter
        else if isParameter c || isFinal c then string
        else deviceParameter
    | deviceIntermediate =>
        if isParameter c || isFinal c then string else deviceIntermediate
    | command => if c = '\x07' then ground else command
    | string => if hasEndOctet c then ground else string

def shows (s : State) (c : Char) : Bool :=
  match s with
  | ground => isIntermediate c || isParameter c || isFinal c || isBlank c || !isAscii c
  | escape | escapeIntermediate | sequence | parameter | intermediate | ignored => isBlank c
  | device | deviceParameter | deviceIntermediate | command | string => false

end State

-- What is shown of a text. After a character that is shown, so is all plain text; a sequence that
-- such a character stood in goes on with the next one that is not.
def visible : State → Bool → List Char → List Char
  | _, _, [] => []
  | s, shown, c :: rest =>
      if (if shown then State.ground else s).shows c then
        c :: visible (if isAscii c then s else .ground) true rest
      else visible (s.next c) false rest

end Control

def withoutControls (s : String) : String :=
  String.ofList (Control.visible .ground false s.toList)

end StepCommand.Text
