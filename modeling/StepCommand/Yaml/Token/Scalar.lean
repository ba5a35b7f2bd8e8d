import StepCommand.Yaml.Cursor
import StepCommand.Yaml.Token

namespace StepCommand.Yaml

open Cursor

-- A break that stands as it is written is neither dropped nor turned into a space.
def foldBreaks (first more : List Char) : List Char :=
  if first.head? = some '\n' then (if more.isEmpty then [' '] else more) else first ++ more

-- What separates two words: blanks, or line breaks with the blanks around them left out.
structure Gap where
  broken : Bool
  blanks : List Char
  first : List Char
  more : List Char

namespace Gap

def none : Gap := ⟨false, [], [], []⟩

-- After an escaped line break.
def escaped : Gap := ⟨true, [], [], []⟩

def text (gap : Gap) : List Char :=
  if gap.broken then foldBreaks gap.first gap.more else gap.blanks

end Gap

-- In a plain scalar no tab may stand before column `indent` of a continuation line.
def scanGap (indent : Option Int) (start : Mark) :
    Nat → Gap → Cursor → Except SyntaxError (Gap × Cursor)
  | 0, gap, c => .ok (gap, c)
  | fuel + 1, gap, c =>
      let char := c.peek 0
      if isSpace char then
        if gap.broken then
          match indent with
          | some column =>
              if (c.mark.column : Int) < column && char == '\t' then
                c.fail .plainScalar start .tabBeforePlain
              else scanGap indent start fuel gap (c.skip 1)
          | Option.none => scanGap indent start fuel gap (c.skip 1)
        else scanGap indent start fuel { gap with blanks := gap.blanks ++ [char] } (c.skip 1)
      else if isBreak char then
        let (kept, next) := c.takeBreak
        if gap.broken then scanGap indent start fuel { gap with more := gap.more ++ kept } next
        else scanGap indent start fuel { gap with broken := true, first := kept } next
      else .ok (gap, c)

def simpleEscape? (c : Char) : Option Char :=
  match c with
  | '0' => some '\x00'
  | 'a' => some '\x07'
  | 'b' => some '\x08'
  | 't' => some '\t'
  | '\t' => some '\t'
  | 'n' => some '\n'
  | 'v' => some '\x0b'
  | 'f' => some '\x0c'
  | 'r' => some '\r'
  | 'e' => some '\x1b'
  | ' ' => some ' '
  | '"' => some '"'
  | '/' => some '/'
  | '\\' => some '\\'
  | 'N' => some '\u0085'
  | '_' => some '\u00a0'
  | 'L' => some '\u2028'
  | 'P' => some '\u2029'
  | _ => none

def codeLength? (c : Char) : Option Nat :=
  match c with
  | 'x' => some 2
  | 'u' => some 4
  | 'U' => some 8
  | _ => none

-- The code point of an escape, checked digit by digit.
def hexCode? (digits : List Char) : Option Nat :=
  digits.foldl (fun code d => do return 16 * (← code) + (← hexValue? d)) (some 0)

def scanEscape (start : Mark) (c : Cursor) : Except SyntaxError (Char × Cursor) :=
  match simpleEscape? (c.peek 1), codeLength? (c.peek 1) with
  | some char, _ => .ok (char, c.skip 2)
  | none, none => c.fail .quotedEscape start .unknownEscape
  | none, some length =>
      let next := c.skip 2
      let digits := next.rest.take length
      if digits.length < length then next.fail .quotedEscape start .hexNumber
      else
        match hexCode? digits with
        | none => next.fail .quotedEscape start .hexNumber
        | some code =>
            if (0xd800 ≤ code && code ≤ 0xdfff) || 0x10ffff < code then
              next.fail .quotedEscape start .escapeCode
            else .ok (Char.ofNat code, next.skip length)

-- The characters up to a blank, the closing quote or the end; a line break may be escaped.
def quotedWord (double : Bool) (start : Mark) :
    Nat → List Char → Cursor → Except SyntaxError (List Char × Gap × Cursor)
  | 0, word, c => .ok (word, Gap.none, c)
  | fuel + 1, word, c =>
      let char := c.peek 0
      if isSpaceBreakOrEnd char then .ok (word, Gap.none, c)
      else if !double && char == '\'' && c.peek 1 == '\'' then
        quotedWord double start fuel (word ++ ['\'']) (c.skip 2)
      else if char == (if double then '"' else '\'') then .ok (word, Gap.none, c)
      else if double && char == '\\' && isBreak (c.peek 1) then
        .ok (word, Gap.escaped, (c.skip 1).takeBreak.2)
      else if double && char == '\\' then
        match scanEscape start c with
        | .ok (escaped, next) => quotedWord double start fuel (word ++ [escaped]) next
        | .error e => .error e
      else quotedWord double start fuel (word ++ [char]) (c.skip 1)

def quotedWords (double : Bool) (start : Mark) :
    Nat → List Char → Cursor → Except SyntaxError (List Char × Cursor)
  | 0, text, c => .ok (text, c)
  | fuel + 1, text, c =>
      if c.atDocumentIndicator then c.fail .quotedScalar start .documentIndicator
      else if c.rest.isEmpty then c.fail .quotedScalar start .endOfStream
      else
        match quotedWord double start c.rest.length [] c with
        | .error e => .error e
        | .ok (word, gap, c) =>
            if c.peek 0 == (if double then '"' else '\'') then .ok (text ++ word, c)
            else
              match scanGap Option.none start c.rest.length gap c with
              | .error e => .error e
              | .ok (gap, c) => quotedWords double start fuel (text ++ word ++ gap.text) c

def scanQuoted (double : Bool) (c : Cursor) : Except SyntaxError (Token × Cursor) :=
  let start := c.mark
  match quotedWords double start c.rest.length [] (c.skip 1) with
  | .error e => .error e
  | .ok (text, c) =>
      let c := c.skip 1
      let style := if double then Style.doubleQuoted else .singleQuoted
      .ok (⟨.scalar style (String.ofList text), start, c.mark⟩, c)

def isFlowIndicator (c : Char) : Bool := ",[]\x7b\x7d".toList.contains c

-- A colon that ends no word, although it stands before an indicator of a flow collection.
def isStrayColon (inFlow : Bool) (c next : Char) : Bool :=
  inFlow && c == ':' && (next == '?' || isFlowIndicator next)

def endsPlain (inFlow : Bool) (c next : Char) : Bool :=
  isSpaceBreakOrEnd c || isStrayColon inFlow c next || (c == ':' && isSpaceBreakOrEnd next) ||
    (inFlow && isFlowIndicator c)

def plainWord (inFlow : Bool) : List Char → List Char
  | [] => []
  | c :: rest =>
      if endsPlain inFlow c (rest.headD '\x00') then [] else c :: plainWord inFlow rest

-- Words and the gaps between them; the flag says whether the scalar ended after a line break.
def plainWords (inFlow : Bool) (indent : Int) (start : Mark) :
    Nat → List Char → Gap → Mark → Cursor → Except SyntaxError (List Char × Bool × Mark × Cursor)
  | 0, text, gap, stop, c => .ok (text, gap.broken, stop, c)
  | fuel + 1, text, gap, stop, c =>
      if c.atDocumentIndicator || c.peek 0 == '#' then .ok (text, gap.broken, stop, c)
      else
        let word := plainWord inFlow c.rest
        let next := c.skip word.length
        if isStrayColon inFlow (next.peek 0) (next.peek 1) then
          next.fail .plainScalar start .colonInPlain
        else
          let text := if word.isEmpty then text else text ++ gap.text ++ word
          let gap := if word.isEmpty then gap else Gap.none
          let stop := if word.isEmpty then stop else next.mark
          if !(isSpace (next.peek 0) || isBreak (next.peek 0)) then
            .ok (text, gap.broken, stop, next)
          else
            match scanGap (some indent) start next.rest.length gap next with
            | .error e => .error e
            | .ok (gap, next) =>
                if !inFlow && (next.mark.column : Int) < indent then
                  .ok (text, gap.broken, stop, next)
                else plainWords inFlow indent start fuel text gap stop next

-- The flag says whether a simple key may follow, which it may on a new line.
def scanPlain (inFlow : Bool) (indent : Int) (c : Cursor) :
    Except SyntaxError (Token × Bool × Cursor) :=
  match plainWords inFlow indent c.mark (c.rest.length + 1) [] Gap.none c.mark c with
  | .error e => .error e
  | .ok (text, broken, stop, next) =>
      .ok (⟨.scalar .plain (String.ofList text), c.mark, stop⟩, broken, next)

inductive Chomping where
  | strip
  | clip
  | keep
deriving DecidableEq

def chompingOf? (c : Char) : Option Chomping :=
  if c == '+' then some .keep else if c == '-' then some .strip else none

def indentationOf (start : Mark) (c : Cursor) : Except SyntaxError (Nat × Cursor) :=
  let char := c.peek 0
  if char == '0' then c.fail .blockScalar start .zeroIndentation
  else if char.isDigit then .ok (char.toNat - '0'.toNat, c.skip 1)
  else .ok (0, c)

-- Chomping and indentation indicators, in either order.
def blockHeader (start : Mark) (c : Cursor) : Except SyntaxError (Chomping × Nat × Cursor) :=
  match chompingOf? (c.peek 0) with
  | some chomping => do
      let (indentation, c) ← indentationOf start (c.skip 1)
      return (chomping, indentation, c)
  | none => do
      let (indentation, c) ← indentationOf start c
      match (if indentation = 0 then none else chompingOf? (c.peek 0)) with
      | some chomping => return (chomping, indentation, c.skip 1)
      | none => return (.clip, indentation, c)

-- Empty lines. While the indentation is not known, the widest line of spaces is noted.
def blockBreaks (indent : Option Int) (start : Mark) :
    Nat → List Char → Nat → Cursor → Except SyntaxError (List Char × Nat × Cursor)
  | 0, breaks, widest, c => .ok (breaks, widest, c)
  | fuel + 1, breaks, widest, c =>
      let spaces := c.rest.takeWhile (· == ' ')
      let taken :=
        match indent with
        | some column => min spaces.length (column - c.mark.column).toNat
        | none => spaces.length
      let c := c.skip taken
      let widest := max widest c.mark.column
      let before :=
        match indent with
        | some column => decide ((c.mark.column : Int) < column)
        | none => true
      if before && c.peek 0 == '\t' then c.fail .blockScalar start .tabInIndentation
      else if isBreak (c.peek 0) then
        let (kept, next) := c.takeBreak
        blockBreaks indent start fuel (breaks ++ kept) widest next
      else .ok (breaks, widest, c)

structure BlockText where
  text : List Char
  lineBreak : List Char
  emptyLines : List Char

-- In a folded scalar the break between two lines is folded, unless one of them starts with a blank.
def blockLines (isLiteral : Bool) (indent : Int) (start : Mark) :
    Nat → BlockText → Bool → Cursor → Except SyntaxError (BlockText × Cursor)
  | 0, b, _, c => .ok (b, c)
  | fuel + 1, b, leadingBlank, c =>
      if (c.mark.column : Int) ≠ indent ∨ c.rest.isEmpty then .ok (b, c)
      else
        let blank := isSpace (c.peek 0)
        let folds := !isLiteral && b.lineBreak.head? == some '\n' && !leadingBlank && !blank
        let joint :=
          if folds then (if b.emptyLines.isEmpty then [' '] else []) else b.lineBreak
        let (line, c) := c.span (!isBreakOrEnd ·)
        let (lineBreak, c) := c.takeBreak
        match blockBreaks (some indent) start (c.rest.length + 1) [] 0 c with
        | .error e => .error e
        | .ok (emptyLines, _, c) =>
            blockLines isLiteral indent start fuel
              ⟨b.text ++ joint ++ b.emptyLines ++ line, lineBreak, emptyLines⟩ blank c

-- `outer` is the indentation of the collection that the scalar stands in.
def scanBlock (isLiteral : Bool) (outer : Int) (c : Cursor) :
    Except SyntaxError (Token × Cursor) := do
  let start := c.mark
  let (chomping, indentation, c) ← blockHeader start (c.skip 1)
  let c := (c.skipWhile isSpace).skipComment
  if !isBreakOrEnd (c.peek 0) then c.fail .blockScalar start .commentOrBreak
  else
    let (_, c) := c.takeBreak
    let known : Option Int :=
      if indentation = 0 then none
      else some (if 0 ≤ outer then outer + indentation else indentation)
    let (emptyLines, widest, c) ← blockBreaks known start (c.rest.length + 1) [] 0 c
    let indent := known.getD (max (max (widest : Int) (outer + 1)) 1)
    let (b, c) ← blockLines isLiteral indent start (c.rest.length + 1) ⟨[], [], emptyLines⟩ false c
    let tail :=
      match chomping with
      | .strip => []
      | .clip => b.lineBreak
      | .keep => b.lineBreak ++ b.emptyLines
    let style := if isLiteral then Style.literal else .folded
    return (⟨.scalar style (String.ofList (b.text ++ tail)), start, c.mark⟩, c)

end StepCommand.Yaml
