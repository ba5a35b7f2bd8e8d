import StepCommand.Template.Word
import StepCommand.Value

namespace StepCommand.Template.Constant

-- What a text is written with: characters, and escapes for units of UTF-16.
inductive Piece where
  | char (c : Char)
  | unit (n : Nat)
deriving DecidableEq, Repr

def hexDigit? (c : Char) : Option Nat :=
  if c.isDigit then some (c.toNat - '0'.toNat)
  else if 'a' ≤ c ∧ c ≤ 'f' then some (c.toNat - 'a'.toNat + 10)
  else if 'A' ≤ c ∧ c ≤ 'F' then some (c.toNat - 'A'.toNat + 10)
  else none

def hexUnit? (a b c d : Char) : Option Nat :=
  [a, b, c, d].foldl (fun n c => do return 16 * (← n) + (← hexDigit? c)) (some 0)

-- The quote that is not around the text cannot be escaped in it.
def escape? (quote c : Char) : Option Nat :=
  match c with
  | '\\' => some 0x5c
  | '/' => some 0x2f
  | 'b' => some 0x08
  | 'f' => some 0x0c
  | 'n' => some 0x0a
  | 'r' => some 0x0d
  | 't' => some 0x09
  | _ => if c = quote then some c.toNat else none

-- The text up to the quote.
def pieces? (quote : Char) : List Char → Option (List Piece × List Char)
  | [] => none
  | '\\' :: 'u' :: a :: b :: c :: d :: rest => do
      let n ← hexUnit? a b c d
      let (pieces, rest) ← pieces? quote rest
      return (.unit n :: pieces, rest)
  | '\\' :: c :: rest => do
      let n ← escape? quote c
      let (pieces, rest) ← pieces? quote rest
      return (.unit n :: pieces, rest)
  | c :: rest =>
      if c = quote then some ([], rest)
      else do
        let (pieces, rest) ← pieces? quote rest
        return (.char c :: pieces, rest)

def isHigh (n : Nat) : Bool := 0xd800 ≤ n && n < 0xdc00

def isLow (n : Nat) : Bool := 0xdc00 ≤ n && n < 0xe000

-- Controls have to be escaped, and surrogates to come in pairs.
def chars? : List Piece → Option (List Char)
  | [] => some []
  | .char c :: rest => if c.toNat < 0x20 then none else (chars? rest).map (c :: ·)
  | .unit high :: .unit low :: rest =>
      if isHigh high && isLow low then
        let c := Char.ofNat (0x10000 + 0x400 * (high - 0xd800) + (low - 0xdc00))
        (chars? rest).map (c :: ·)
      else if isHigh high || isLow high then none
      else (chars? (.unit low :: rest)).map (Char.ofNat high :: ·)
  | .unit n :: rest =>
      if isHigh n || isLow n then none else (chars? rest).map (Char.ofNat n :: ·)

def text? (quote : Char) (s : List Char) : Option (Option Value × List Char) := do
  let (pieces, rest) ← pieces? quote s
  return ((chars? pieces).map fun chars => .text (String.ofList chars), rest)

-- One digit at least, and what follows the digits.
def digits? (s : List Char) : Option (List Char × List Char) :=
  let digits := s.takeWhile Char.isDigit
  if digits.isEmpty then none else some (digits, s.dropWhile Char.isDigit)

structure Numeral where
  negative : Bool
  whole : List Char
  point : Bool
  fraction : List Char
  exponent : Option (Bool × List Char)

namespace Numeral

def sign (s : List Char) : Bool × List Char :=
  match s with
  | '-' :: rest => (true, rest)
  | _ => (false, s)

def exponent? (s : List Char) : Option (Bool × List Char) × List Char :=
  match s with
  | 'E' :: rest =>
      let (negative, rest) := sign rest
      match digits? rest with
      | some (digits, rest) => (some (negative, digits), rest)
      | none => (none, s)
  | _ => (none, s)

def read? (s : List Char) : Option (Numeral × List Char) := do
  let (negative, rest) := sign s
  let (whole, rest) ← digits? rest
  let (point, rest) := match rest with
    | '.' :: rest => (true, rest)
    | _ => (false, rest)
  let (fraction, rest) := (digits? rest).getD ([], rest)
  let (exponent, rest) := exponent? rest
  return (⟨negative, whole, point, fraction, exponent⟩, rest)

-- Zeros do not lead other digits, and digits follow a point.
def isWellFormed (n : Numeral) : Bool :=
  (n.whole.length == 1 || n.whole.head? != some '0') && (n.point == !n.fraction.isEmpty)

def float? (n : Numeral) : Option Value :=
  let e : Int := match n.exponent with
    | none => 0
    | some (true, digits) => -(Double.digitsValue digits : Int)
    | some (false, digits) => Double.digitsValue digits
  let digits := Double.digitsValue (n.whole ++ n.fraction)
  (Double.ofDecimal? n.negative digits (e - n.fraction.length)).map .float

-- Without a fraction and an exponent it is an integer if it fits a machine word.
def value? (n : Numeral) : Option Value :=
  let size := Double.digitsValue n.whole
  if !n.isWellFormed then none
  else if n.point || n.exponent.isSome then n.float?
  else if n.negative then
    if 0 < size ∧ size ≤ 0x8000000000000000 then some (.int (-size)) else n.float?
  else if size < 0x10000000000000000 then some (.int size)
  else n.float?

end Numeral

def number? (s : List Char) : Option (Option Value × List Char) := do
  let (n, rest) ← Numeral.read? s
  if (rest.head?.map isSymbol).getD false then none else return (n.value?, rest)

def word? (s : List Char) : Option (Option Value × List Char) :=
  ((afterWord? "null" s).map fun rest => (some .null, rest)) <|>
    ((afterWord? "true" s).map fun rest => (some (.bool true), rest)) <|>
    (afterWord? "false" s).map fun rest => (some (.bool false), rest)

-- What has the looks of a constant may lack a value; then it is no path either.
def read? (s : List Char) : Option (Option Value × List Char) :=
  match s with
  | '"' :: rest => text? '"' rest
  | '\'' :: rest => text? '\'' rest
  | _ => number? s <|> word? s

end StepCommand.Template.Constant
