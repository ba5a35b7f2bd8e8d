import StepCommand.Yaml.Cursor
import StepCommand.Yaml.Token

namespace StepCommand.Yaml

open Cursor

-- Characters of a tag; a verbatim tag and a directive also admit the flow indicators.
def isTagChar (verbatim : Bool) (c : Char) : Bool :=
  isNameChar c || ";/?:@&=+$.%!~*'()".toList.contains c || (verbatim && ",[]".toList.contains c)

def escapedOctet? (c : Cursor) : Option UInt8 :=
  if c.peek 0 == '%' then
    match hexValue? (c.peek 1), hexValue? (c.peek 2) with
    | some high, some low => some (UInt8.ofNat (16 * high + low))
    | _, _ => none
  else none

-- How many octets follow the first one of a character.
def trailingCount? (octet : UInt8) : Option Nat :=
  if octet < 0x80 then some 0
  else if octet / 0x20 = 0x6 then some 1
  else if octet / 0x10 = 0xe then some 2
  else if octet / 0x08 = 0x1e then some 3
  else none

def trailingOctets (activity : Activity) (start : Mark) :
    Nat → Cursor → Except SyntaxError (List UInt8 × Cursor)
  | 0, c => .ok ([], c)
  | count + 1, c =>
      match escapedOctet? c with
      | none => c.fail activity start .escapedOctet
      | some octet =>
          if octet / 0x40 = 0x2 then do
            let (octets, c) ← trailingOctets activity start count (c.skip 3)
            return (octet :: octets, c)
          else c.fail activity start .trailingOctet

-- Octets in hexadecimal, as many as the first of them asks for.
def escapedOctets (activity : Activity) (start : Mark) (c : Cursor) :
    Except SyntaxError (List UInt8 × Cursor) :=
  match escapedOctet? c with
  | none => c.fail activity start .escapedOctet
  | some octet =>
      match trailingCount? octet with
      | none => c.fail activity start .leadingOctet
      | some count => do
          let (octets, c) ← trailingOctets activity start count (c.skip 3)
          return (octet :: octets, c)

-- The characters of a tag that are not escaped have one octet.
def octetOf (char : Char) : UInt8 := char.toNat.toUInt8

def tagOctets (verbatim : Bool) (activity : Activity) (start : Mark) :
    Nat → Cursor → Except SyntaxError (List UInt8 × Cursor)
  | 0, c => .ok ([], c)
  | fuel + 1, c =>
      if c.peek 0 == '%' then do
        let (first, c) ← escapedOctets activity start c
        let (octets, c) ← tagOctets verbatim activity start fuel c
        return (first ++ octets, c)
      else if isTagChar verbatim (c.peek 0) then do
        let (octets, next) ← tagOctets verbatim activity start fuel (c.skip 1)
        return (octetOf (c.peek 0) :: octets, next)
      else .ok ([], c)

-- `head` is what a supposed handle turned out to be; its exclamation mark is not part of the tag.
def tagUri (verbatim directive : Bool) (head : List Char) (start : Mark) (c : Cursor) :
    Except SyntaxError (Tag × Cursor) := do
  let activity := if directive then Activity.tagDirectivePrefix else .tagUri
  let (octets, next) ← tagOctets verbatim activity start c.rest.length c
  if head.isEmpty && octets.isEmpty then next.fail activity start .tagUri
  else return (Tag.ofOctets (head.tail.map octetOf ++ octets), next)

def tagHandle (directive : Bool) (start : Mark) (c : Cursor) :
    Except SyntaxError (List Char × Cursor) :=
  if c.peek 0 != '!' then
    c.fail (if directive then .tagDirectiveStart else .tag) start .exclamationMark
  else
    let (name, next) := (c.skip 1).span isNameChar
    if next.peek 0 == '!' then .ok ('!' :: name ++ ['!'], next.skip 1)
    else if directive && !name.isEmpty then next.fail .tagDirectiveHandle start .exclamationMark
    else .ok ('!' :: name, next)

-- A verbatim tag has no handle, nor has the tag `!`.
def tagParts (start : Mark) (c : Cursor) : Except SyntaxError ((List Char × Tag) × Cursor) :=
  if c.peek 1 == '<' then do
    let (suffix, c) ← tagUri true false [] start (c.skip 2)
    if c.peek 0 != '>' then c.fail .tag start .verbatimEnd
    else return (([], suffix), c.skip 1)
  else do
    let (handle, c) ← tagHandle false start c
    if 1 < handle.length && handle.getLast? == some '!' then
      let (suffix, c) ← tagUri false false [] start c
      return ((handle, suffix), c)
    else
      let (suffix, c) ← tagUri false false handle start c
      return (if suffix.isEmpty then ([], Tag.nonSpecific) else (['!'], suffix), c)

def scanTag (inFlow : Bool) (c : Cursor) : Except SyntaxError (Token × Cursor) := do
  let start := c.mark
  let ((handle, suffix), c) ← tagParts start c
  if isSpaceBreakOrEnd (c.peek 0) || (inFlow && c.peek 0 == ',') then
    return (⟨.tag (String.ofList handle) suffix, start, c.mark⟩, c)
  else c.fail .tag start .whitespaceOrBreak

def scanAnchor (isAlias : Bool) (c : Cursor) : Except SyntaxError (Token × Cursor) :=
  let start := c.mark
  let (name, next) := (c.skip 1).span isNameChar
  let ends := isSpaceBreakOrEnd (next.peek 0) || "?:,]\x7d%@`".toList.contains (next.peek 0)
  if name.isEmpty || !ends then
    next.fail (if isAlias then .aliasNode else .anchor) start .anchorName
  else
    let name := String.ofList name
    .ok (⟨if isAlias then .aliasNode name else .anchor name, start, next.mark⟩, next)

def versionNumber (start : Mark) (c : Cursor) : Except SyntaxError (Nat × Cursor) :=
  let digits := c.rest.takeWhile Char.isDigit
  if digits.isEmpty then c.fail .versionDirective start .versionNumber
  else if 9 < digits.length then (c.skip 9).fail .versionDirective start .longVersion
  else .ok (digits.foldl (fun n d => 10 * n + (d.toNat - '0'.toNat)) 0, c.skip digits.length)

def versionDirective (start : Mark) (c : Cursor) : Except SyntaxError (Token.Kind × Cursor) := do
  let (major, c) ← versionNumber start (c.skipWhile isSpace)
  if c.peek 0 != '.' then c.fail .versionDirective start .versionDot
  else
    let (minor, c) ← versionNumber start (c.skip 1)
    return (.version major minor, c)

def tagDirective (start : Mark) (c : Cursor) : Except SyntaxError (Token.Kind × Cursor) := do
  let (handle, c) ← tagHandle true start (c.skipWhile isSpace)
  if !isSpace (c.peek 0) then c.fail .tagDirective start .whitespace
  else
    let (replacement, c) ← tagUri true true [] start (c.skipWhile isSpace)
    if isSpaceBreakOrEnd (c.peek 0) then
      return (.tagDirective (String.ofList handle) replacement, c)
    else c.fail .tagDirective start .whitespaceOrBreak

def directiveKind (start : Mark) (c : Cursor) : Except SyntaxError (Token.Kind × Cursor) :=
  let (name, c) := (c.skip 1).span isNameChar
  if name.isEmpty then c.fail .directive start .directiveName
  else if !isSpaceBreakOrEnd (c.peek 0) then c.fail .directive start .directiveNameEnd
  else if name = "YAML".toList then versionDirective start c
  else if name = "TAG".toList then tagDirective start c
  else c.fail .directive start .unknownDirective

def scanDirective (c : Cursor) : Except SyntaxError (Token × Cursor) := do
  let start := c.mark
  let (kind, c) ← directiveKind start c
  let stop := c.mark
  let c := (c.skipWhile isSpace).skipComment
  if isBreakOrEnd (c.peek 0) then return (⟨kind, start, stop⟩, c.takeBreak.2)
  else c.fail .directive start .commentOrBreak

end StepCommand.Yaml
