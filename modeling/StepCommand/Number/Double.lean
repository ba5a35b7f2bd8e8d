namespace StepCommand

-- The number `mantissa * 2 ^ exponent`, negated when `negative`.
structure Double where
  negative : Bool
  mantissa : Nat
  exponent : Int
deriving DecidableEq, Repr, Inhabited

namespace Double

-- The mantissas of normal numbers start here, and end before twice as much.
def leastNormal : Nat := 0x10000000000000

def zero (negative : Bool) : Double := ⟨negative, 0, -1074⟩

-- A power with an exponent of either sign, as a fraction.
def power (base : Nat) (e : Int) : Nat × Nat := (base.pow e.toNat, base.pow (-e).toNat)

-- To the nearest integer; a half goes to the even neighbour.
def roundHalfEven (num den : Nat) : Nat :=
  let low := num / den
  let twice := 2 * (num % den)
  if twice < den then low
  else if den < twice then low + 1
  else if low % 2 = 0 then low else low + 1

def floorLog2 (num den : Nat) : Int :=
  let guess : Int := (num.log2 : Int) - (den.log2 : Int)
  let (up, down) := power 2 guess
  if num * down < den * up then guess - 1 else guess

-- The number closest to a fraction; none if that is out of range.
def nearest? (negative : Bool) (num den : Nat) : Option Double :=
  if num = 0 then some (zero negative)
  else
    let exponent := max (floorLog2 num den - 52) (-1074)
    let (up, down) := power 2 exponent
    let mantissa := roundHalfEven (num * down) (den * up)
    let carried := decide (mantissa = 2 * leastNormal)
    let exponent := if carried then exponent + 1 else exponent
    if 971 < exponent then none
    else some ⟨negative, if carried then leastNormal else mantissa, exponent⟩

def ofDecimal? (negative : Bool) (digits : Nat) (exponent : Int) : Option Double :=
  let magnitude := exponent + (Nat.toDigits 10 digits).length
  if digits = 0 ∨ magnitude < -330 then some (zero negative)
  else if 310 < magnitude then none
  else
    let (up, down) := power 10 exponent
    nearest? negative (digits * up) down

-- Every number is a multiple of the smallest positive one.
def units (x : Double) : Int :=
  let size : Int := x.mantissa * (2 : Nat).pow (x.exponent + 1074).toNat
  if x.negative then -size else size

def unitsOf (n : Int) : Int := n * ((2 : Nat).pow 1074 : Nat)

-- Numbers below the normal range have fewer significant bits.
def isNormal (x : Double) : Bool := decide (leastNormal ≤ x.mantissa)

def digitsValue (digits : List Char) : Nat :=
  digits.foldl (fun n c => 10 * n + (c.toNat - '0'.toNat)) 0

-- A sign, if any, and the rest.
def readSign : List Char → Bool × List Char
  | '-' :: rest => (true, rest)
  | '+' :: rest => (false, rest)
  | s => (false, s)

def readExponent? : List Char → Option Int
  | [] => some 0
  | c :: rest =>
      if c = 'e' ∨ c = 'E' then
        let (negative, digits) := readSign rest
        if digits.isEmpty || !digits.all Char.isDigit then none
        else some (if negative then -(digitsValue digits : Int) else digitsValue digits)
      else none

-- Digits with at most one point among or around them, then an exponent, if any.
def read? (s : String) : Option Double :=
  let (negative, unsigned) := readSign s.toList
  let whole := unsigned.takeWhile Char.isDigit
  let rest := unsigned.dropWhile Char.isDigit
  let (fraction, rest) :=
    match rest with
    | '.' :: more => (more.takeWhile Char.isDigit, more.dropWhile Char.isDigit)
    | _ => ([], rest)
  if whole.isEmpty && fraction.isEmpty then none
  else
    (readExponent? rest).bind fun e =>
      ofDecimal? negative (digitsValue (whole ++ fraction)) (e - fraction.length)

-- Bounds of the decimals that are read back as `x`, and `x` between them, in units of
-- `2 ^ (exponent - 2)`. Below a power of two the numbers lie twice as close.
def lowerBound (x : Double) : Nat :=
  if x.mantissa = leastNormal ∧ -1074 < x.exponent then 4 * x.mantissa - 1 else 4 * x.mantissa - 2

def upperBound (x : Double) : Nat := 4 * x.mantissa + 2

-- Is `c * 10 ^ p` read back as `x`? The bounds themselves are, when the mantissa is even.
def readsBack (x : Double) (num den c : Nat) : Bool :=
  if x.mantissa % 2 = 0 then
    decide (x.lowerBound * num ≤ c * den ∧ c * den ≤ x.upperBound * num)
  else
    decide (x.lowerBound * num < c * den ∧ c * den < x.upperBound * num)

-- Of the two neighbours of `x` among the multiples of `10 ^ p`, the one to write, if any.
def onGrid? (x : Double) (p : Int) : Option Nat :=
  let (twos, halves) := power 2 (x.exponent - 2)
  let (tens, tenths) := power 10 p
  let num := twos * tenths
  let den := halves * tens
  let below := 4 * x.mantissa * num / den
  let remainder := 4 * x.mantissa * num % den
  match x.readsBack num den below, x.readsBack num den (below + 1) with
  | true, true =>
      if 2 * remainder < den then some below
      else if den < 2 * remainder then some (below + 1)
      else some (if below % 2 = 0 then below else below + 1)
  | true, false => some below
  | false, true => some (below + 1)
  | false, false => none

-- Finer and finer grids; seventeen digits always suffice.
def shortestFrom (x : Double) : Nat → Int → Nat × Int
  | 0, p => (0, p)
  | fuel + 1, p =>
      match x.onGrid? p with
      | some digits => (digits, p)
      | none => shortestFrom x fuel (p - 1)

-- Digits and the power of ten that they count.
-- Among the decimals that are read back as the number one with the fewest digits, and of those the
-- nearest.
def shortest (x : Double) : Nat × Int :=
  if x.mantissa = 0 then (0, 0)
  else
    let bits : Int := x.exponent + x.mantissa.log2 + 1
    shortestFrom x 24 (bits * 30103 / 100000 + 2)

def zeros (n : Int) : List Char := List.replicate n.toNat '0'

-- Without an exponent, and with at least one digit on each side of the point.
def positional (digits : List Char) (p : Int) : List Char :=
  if 0 ≤ p then digits ++ zeros p ++ ['.', '0']
  else
    let before := (digits.length : Int) + p
    if 0 < before then digits.take before.toNat ++ '.' :: digits.drop before.toNat
    else ['0', '.'] ++ zeros (-before) ++ digits

-- One digit before the point, and a signed exponent.
def scientific (digits : List Char) (p : Int) : List Char :=
  let e := (digits.length : Int) + p - 1
  let tail := match digits.tail with
    | [] => []
    | more => '.' :: more
  digits.take 1 ++ tail ++ ['e', if 0 ≤ e then '+' else '-'] ++ Nat.toDigits 10 e.natAbs

def signed (x : Double) (s : List Char) : String :=
  String.ofList (if x.negative then '-' :: s else s)

def positionalText (x : Double) : String :=
  let (digits, p) := x.shortest
  x.signed (positional (Nat.toDigits 10 digits) p)

-- Positional from 0.00001 up to numbers of sixteen digits before the point.
def text (x : Double) : String :=
  let (digits, p) := x.shortest
  let digits := Nat.toDigits 10 digits
  let e := (digits.length : Int) + p - 1
  x.signed (if -5 ≤ e ∧ e ≤ 15 then positional digits p else scientific digits p)

end Double

end StepCommand
