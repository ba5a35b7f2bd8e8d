namespace StepCommand

-- A path as the system has it. Its bytes need not be the encoding of a text.
structure RawPath where
  bytes : List UInt8
deriving DecidableEq, Repr

namespace RawPath

def ofText (s : String) : RawPath := ⟨s.toByteArray.data.toList⟩

-- Whether two bytes may be the first of a longer character.
def begins (first second : UInt8) : Bool :=
  if first = 0xE0 then 0xA0 ≤ second && second ≤ 0xBF
  else if first = 0xED then 0x80 ≤ second && second ≤ 0x9F
  else if first = 0xF0 then 0x90 ≤ second && second ≤ 0xBF
  else if first = 0xF4 then 0x80 ≤ second && second ≤ 0x8F
  else 0xE1 ≤ first && first ≤ 0xF3 && 0x80 ≤ second && second ≤ 0xBF

-- How many of the bytes that follow are lost with one that starts no character.
def lost (first : UInt8) : List UInt8 → Nat
  | second :: third :: _ =>
      if begins first second then
        if 0xF0 ≤ first && 0x80 ≤ third && third ≤ 0xBF then 2 else 1
      else 0
  | [second] => if begins first second then 1 else 0
  | [] => 0

-- The character that is shown for the first bytes, and how many come after the first one.
def next (first : UInt8) (rest : List UInt8) : Char × Nat :=
  match (first :: rest).toByteArray.utf8DecodeChar? 0 with
  | some c => (c, c.utf8Size - 1)
  | none => ('\uFFFD', lost first rest)

def charsAfter : Nat → List UInt8 → List Char
  | _, [] => []
  | skipped + 1, _ :: rest => charsAfter skipped rest
  | 0, first :: rest => (next first rest).1 :: charsAfter (next first rest).2 rest

-- What is no text is shown with a replacement character in its place.
def text (p : RawPath) : String := String.ofList (charsAfter 0 p.bytes)

example : text ⟨[0x61, 0xFF, 0xE2, 0x82, 0x62]⟩ = "a\uFFFD\uFFFDb" := by decide +kernel

end RawPath

end StepCommand
