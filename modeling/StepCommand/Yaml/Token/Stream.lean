import StepCommand.Yaml.Input
import StepCommand.Yaml.Token.Directive
import StepCommand.Yaml.Token.Scalar

namespace StepCommand.Yaml

-- A place where a key may have started. In a block mapping one is required at the indentation.
structure KeyStart where
  required : Bool
  number : Nat
  mark : Mark

-- `keys` has an entry for each open flow collection, innermost first, and one for the block level.
-- `refused` is the place in the text beyond which it cannot be read.
-- A key is only known by the colon after it: a token at which a key may have started is held back
-- until the colon, or its absence, has been seen.
structure Stream where
  cursor : Cursor
  refused : Option Nat
  flow : Nat
  indent : Int
  indents : List Int
  keyAllowed : Bool
  keys : List (Option KeyStart)
  released : Nat
  pending : List Token

namespace Stream

def ofInput (input : Input) : Stream :=
  ⟨⟨input.readable, Mark.start⟩, input.refused, 0, -1, [], true, [none], 0, []⟩

def inFlow (s : Stream) : Bool := 0 < s.flow

def mark (s : Stream) : Mark := s.cursor.mark

def fail {α : Type} (s : Stream) (fault : Fault) (context : Option (Activity × Mark)) :
    Except SyntaxError α :=
  .error ⟨fault, s.mark, context⟩

def push (s : Stream) (t : Token) : Stream := { s with pending := s.pending ++ [t] }

def insertAt (s : Stream) (number : Nat) (t : Token) : Stream :=
  { s with pending := s.pending.insertIdx (number - s.released) t }

-- A key ends on the line where it starts, and within 1024 bytes.
def isStale (s : Stream) (k : KeyStart) : Bool :=
  k.mark.line < s.mark.line || k.mark.index + 1024 < s.mark.index

def freshKey (s : Stream) : Option KeyStart → Except SyntaxError (Option KeyStart)
  | none => .ok none
  | some k =>
      if !s.isStale k then .ok (some k)
      else if k.required then s.fail .keyWithoutColon (some (.simpleKey, k.mark))
      else .ok none

def dropStale (s : Stream) : Except SyntaxError Stream := do
  return { s with keys := ← s.keys.mapM s.freshKey }

def removeKey (s : Stream) : Except SyntaxError Stream :=
  match s.keys with
  | some k :: keys =>
      if k.required then s.fail .keyWithoutColon (some (.simpleKey, k.mark))
      else .ok { s with keys := none :: keys }
  | _ => .ok s

def saveKey (s : Stream) : Except SyntaxError Stream :=
  if s.keyAllowed then do
    let required := !s.inFlow && s.indent == (s.mark.column : Int)
    let key : KeyStart := ⟨required, s.released + s.pending.length, s.mark⟩
    let s ← s.removeKey
    return { s with keys := some key :: s.keys.tail }
  else .ok s

-- Opens a block collection if the column lies further in. Its token may belong before others.
def openBlock (s : Stream) (column : Nat) (number : Option Nat) (kind : Token.Kind) (mark : Mark) :
    Stream :=
  if s.inFlow || (column : Int) ≤ s.indent then s
  else
    let s := { s with indents := s.indent :: s.indents, indent := column }
    let t : Token := ⟨kind, mark, mark⟩
    match number with
    | some n => s.insertAt n t
    | none => s.push t

-- How many block collections end at a column, with the indentation left and those outside it.
def closing (column indent : Int) : List Int → Nat × Int × List Int
  | [] => (0, indent, [])
  | outer :: rest =>
      if column < indent then
        let (count, left) := closing column outer rest
        (count + 1, left)
      else (0, indent, outer :: rest)

def closeBlocks (s : Stream) (column : Int) : Stream :=
  if s.inFlow then s
  else
    let (count, indent, indents) := closing column s.indent s.indents
    let ends := List.replicate count (⟨.blockEnd, s.mark, s.mark⟩ : Token)
    { s with pending := s.pending ++ ends, indent := indent, indents := indents }

-- Passes over blanks, comments and line breaks. A tab may not indent a block collection.
def skipToToken : Nat → Stream → Stream
  | 0, s => s
  | fuel + 1, s =>
      let tabs := s.inFlow || !s.keyAllowed
      let isBlank := fun char => char == ' ' || (tabs && char == '\t')
      let c := (s.cursor.skipByteOrderMark.skipWhile isBlank).skipComment
      if isBreak (c.peek 0) then
        skipToToken fuel
          { s with cursor := c.takeBreak.2, keyAllowed := !s.inFlow || s.keyAllowed }
      else { s with cursor := c }

-- A token of `n` characters.
def fetchFixed (s : Stream) (kind : Token.Kind) (n : Nat) : Stream :=
  let c := s.cursor.skip n
  { s.push ⟨kind, s.mark, c.mark⟩ with cursor := c }

def fetchStreamEnd (s : Stream) : Except SyntaxError Stream := do
  let m := s.mark
  let m := if m.column = 0 then m else { m with line := m.line + 1, column := 0 }
  let s ← ({ s with cursor := { s.cursor with mark := m } }.closeBlocks (-1)).removeKey
  return { s.push ⟨.streamEnd, m, m⟩ with keyAllowed := false }

def fetchDirective (s : Stream) : Except SyntaxError Stream := do
  let s ← (s.closeBlocks (-1)).removeKey
  let (t, c) ← scanDirective s.cursor
  return { s.push t with cursor := c, keyAllowed := false }

def fetchDocumentIndicator (s : Stream) : Except SyntaxError Stream := do
  let s ← (s.closeBlocks (-1)).removeKey
  let kind := if s.cursor.peek 0 == '-' then Token.Kind.documentStart else .documentEnd
  return { s.fetchFixed kind 3 with keyAllowed := false }

def fetchFlowStart (s : Stream) (kind : Token.Kind) : Except SyntaxError Stream := do
  let s ← s.saveKey
  return { s.fetchFixed kind 1 with
    flow := s.flow + 1, keys := none :: s.keys, keyAllowed := true }

def fetchFlowEnd (s : Stream) (kind : Token.Kind) : Except SyntaxError Stream := do
  let s ← s.removeKey
  return { s.fetchFixed kind 1 with
    flow := s.flow - 1
    keys := if s.inFlow then s.keys.tail else s.keys
    keyAllowed := false }

def fetchFlowEntry (s : Stream) : Except SyntaxError Stream := do
  let s ← s.removeKey
  return { s.fetchFixed .flowEntry 1 with keyAllowed := true }

def fetchBlockEntry (s : Stream) : Except SyntaxError Stream :=
  if !s.inFlow && !s.keyAllowed then s.fail .blockEntry none
  else do
    let s ← (s.openBlock s.mark.column none .blockSequenceStart s.mark).removeKey
    return { s.fetchFixed .blockEntry 1 with keyAllowed := true }

def fetchKey (s : Stream) : Except SyntaxError Stream :=
  if !s.inFlow && !s.keyAllowed then s.fail .blockKey none
  else do
    let s ← (s.openBlock s.mark.column none .blockMappingStart s.mark).removeKey
    return { s.fetchFixed .key 1 with keyAllowed := !s.inFlow }

-- The colon after a key puts the key's token before the tokens held back.
def fetchValue (s : Stream) : Except SyntaxError Stream :=
  match s.keys with
  | some k :: keys =>
      let s := s.insertAt k.number ⟨.key, k.mark, k.mark⟩
      let s := s.openBlock k.mark.column (some k.number) .blockMappingStart k.mark
      .ok { s.fetchFixed .value 1 with keys := none :: keys, keyAllowed := false }
  | _ =>
      if !s.inFlow && !s.keyAllowed then s.fail .blockValue none
      else
        let s := s.openBlock s.mark.column none .blockMappingStart s.mark
        .ok { s.fetchFixed .value 1 with keyAllowed := !s.inFlow }

-- A token that may be a key, or the first of one.
def fetchNode (s : Stream) (scan : Cursor → Except SyntaxError (Token × Cursor)) :
    Except SyntaxError Stream := do
  let s ← s.saveKey
  let (t, c) ← scan s.cursor
  return { s.push t with cursor := c, keyAllowed := false }

def fetchBlockScalar (s : Stream) (isLiteral : Bool) : Except SyntaxError Stream := do
  let s ← s.removeKey
  let (t, c) ← scanBlock isLiteral s.indent s.cursor
  return { s.push t with cursor := c, keyAllowed := true }

def fetchPlain (s : Stream) : Except SyntaxError Stream := do
  let s ← s.saveKey
  let (t, broken, c) ← scanPlain s.inFlow (s.indent + 1) s.cursor
  return { s.push t with cursor := c, keyAllowed := broken }

def startsPlain (s : Stream) (char next : Char) : Bool :=
  !(isSpaceBreakOrEnd char || "-?:,[]\x7b\x7d#&*!|>'\"%@`".toList.contains char) ||
    (char == '-' && !isSpace next) ||
    (!s.inFlow && (char == '?' || char == ':') && !isSpaceBreakOrEnd next)

def fetchToken (s : Stream) : Except SyntaxError Stream :=
  let char := s.cursor.peek 0
  let next := s.cursor.peek 1
  let detached := s.inFlow || isSpaceBreakOrEnd next
  if s.cursor.rest.isEmpty then s.fetchStreamEnd
  else if s.mark.column == 0 && char == '%' then s.fetchDirective
  else if s.cursor.atDocumentIndicator then s.fetchDocumentIndicator
  else if char == '[' then s.fetchFlowStart .flowSequenceStart
  else if char == '\x7b' then s.fetchFlowStart .flowMappingStart
  else if char == ']' then s.fetchFlowEnd .flowSequenceEnd
  else if char == '\x7d' then s.fetchFlowEnd .flowMappingEnd
  else if char == ',' then s.fetchFlowEntry
  else if char == '-' && isSpaceBreakOrEnd next then s.fetchBlockEntry
  else if char == '?' && detached then s.fetchKey
  else if char == ':' && detached then s.fetchValue
  else if char == '*' then s.fetchNode (scanAnchor true)
  else if char == '&' then s.fetchNode (scanAnchor false)
  else if char == '!' then s.fetchNode (scanTag s.inFlow)
  else if char == '|' && !s.inFlow then s.fetchBlockScalar true
  else if char == '>' && !s.inFlow then s.fetchBlockScalar false
  else if char == '\'' then s.fetchNode (scanQuoted false)
  else if char == '"' then s.fetchNode (scanQuoted true)
  else if s.startsPlain char next then s.fetchPlain
  else s.fail .tokenStart (some (.nextToken, s.mark))

-- Fails if fewer than `n` characters are left of what can be read, though the text goes on.
def demand (s : Stream) (n : Nat) : Except SyntaxError Unit :=
  match s.refused with
  | some offset =>
      if (s.cursor.rest.drop (n - 1)).isEmpty then .error ⟨.control offset, Mark.start, none⟩
      else .ok ()
  | none => .ok ()

-- What a mistake at the end of what can be read comes from cannot be told.
def beyond (s : Stream) (e : SyntaxError) : SyntaxError :=
  match s.refused with
  | some offset =>
      if s.mark.index + Input.bytes s.cursor.rest < e.mark.index + 4 then
        ⟨.control offset, Mark.start, none⟩
      else e
  | none => e

-- A token is looked at four characters ahead.
def fetch (fuel : Nat) (s : Stream) : Except SyntaxError Stream := do
  let s := skipToToken fuel s
  s.demand 1
  let s ← s.dropStale
  let s := s.closeBlocks s.mark.column
  s.demand 4
  let next ← s.fetchToken.mapError s.beyond
  next.demand 1
  return next

-- Is the next token known not to be preceded by a key token that is still to come?
def isSettled (s : Stream) : Bool :=
  !s.keys.any fun key => match key with
    | some k => k.number == s.released
    | none => false

end Stream

-- The tokens of a text as far as it can be read, and the error that stopped the reading.
structure Tokens where
  tokens : List Token
  failure : Option SyntaxError

namespace Tokens

def next (t : Token) (more : Tokens) : Tokens := ⟨t :: more.tokens, more.failure⟩

def ofStream : Nat → Stream → Tokens
  | 0, _ => ⟨[], none⟩
  | fuel + 1, s =>
      match s.pending with
      | [] =>
          match s.fetch fuel with
          | .error e => ⟨[], some e⟩
          | .ok s => ofStream fuel s
      | t :: rest =>
          match s.dropStale with
          | .error e => ⟨[], some e⟩
          | .ok s =>
              if s.isSettled then
                if t.kind = .streamEnd then ⟨[t], none⟩
                else next t (ofStream fuel { s with pending := rest, released := s.released + 1 })
              else
                match s.fetch fuel with
                | .error e => ⟨[], some e⟩
                | .ok s => ofStream fuel s

-- Each character gives at most four tokens.
def ofText (text : List Char) : Tokens :=
  ofStream (8 * text.length + 16) (Stream.ofInput (Input.ofText text))

end Tokens

end StepCommand.Yaml
