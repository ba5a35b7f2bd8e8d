import StepCommand.Number.Double
import StepCommand.Yaml.Token

namespace StepCommand.Yaml

-- Integers are told apart by the words that hold them; the small ones come first.
inductive Resolved where
  | unit
  | bool (b : Bool)
  | int (n : Int)
  | wideUnsigned (n : Nat)
  | wideSigned (n : Int)
  | float (x : Double)
  | infinite (negative : Bool)
  | nan
  | text (s : String)
deriving Repr

-- A tag that its scalar does not live up to.
structure TagMismatch where
  text : String
  expected : String

namespace Resolved

def null? (s : String) : Bool := ["null", "Null", "NULL", "~"].contains s

def bool? (s : String) : Option Bool :=
  if ["true", "True", "TRUE"].contains s then some true
  else if ["false", "False", "FALSE"].contains s then some false
  else none

def digitValue? (base : Nat) (c : Char) : Option Nat :=
  let value? :=
    if c.isDigit then some (c.toNat - '0'.toNat)
    else if 'a' ≤ c ∧ c ≤ 'f' then some (c.toNat - 'a'.toNat + 10)
    else if 'A' ≤ c ∧ c ≤ 'F' then some (c.toNat - 'A'.toNat + 10)
    else none
  value?.filter (· < base)

def natural? (base : Nat) (digits : List Char) : Option Nat :=
  if digits.isEmpty then none
  else digits.foldl (fun n c => do return base * (← n) + (← digitValue? base c)) (some 0)

-- A base other than ten, by its mark.
def baseOf : List Char → Option (Nat × List Char)
  | '0' :: 'x' :: digits => some (16, digits)
  | '0' :: 'o' :: digits => some (8, digits)
  | '0' :: 'b' :: digits => some (2, digits)
  | _ => none

-- A zero before other digits makes a text, as in a date or a telephone number.
def hasLeadingZero (digits : List Char) : Bool :=
  match digits with
  | '0' :: c :: rest => (c :: rest).all Char.isDigit
  | _ => false

def unsigned? (digits : List Char) : Option Nat :=
  match baseOf digits with
  | some (base, digits) => natural? base digits
  | none => if hasLeadingZero digits then none else natural? 10 digits

def integer? (s : List Char) : Option Int :=
  match s with
  | '-' :: digits => (unsigned? digits).map fun n => -(n : Int)
  | '+' :: digits => (unsigned? digits).map fun n => (n : Int)
  | digits => (unsigned? digits).map fun n => (n : Int)

def ofInteger? (n : Int) : Option Resolved :=
  if -0x8000000000000000 ≤ n ∧ n ≤ 0xffffffffffffffff then some (.int n)
  else if 0 ≤ n ∧ n ≤ 0xffffffffffffffffffffffffffffffff then some (.wideUnsigned n.toNat)
  else if -0x80000000000000000000000000000000 ≤ n ∧ n < 0 then some (.wideSigned n)
  else none

def infinity? (s : String) : Option Bool :=
  if [".inf", ".Inf", ".INF", "+.inf", "+.Inf", "+.INF"].contains s then some false
  else if ["-.inf", "-.Inf", "-.INF"].contains s then some true
  else none

def float? (s : String) : Option Resolved :=
  match infinity? s with
  | some negative => some (.infinite negative)
  | none =>
      if [".nan", ".NaN", ".NAN"].contains s then some .nan
      else if s.startsWith "+-" || s.startsWith "++" then none
      else (Double.read? s).map .float

def int? (s : String) : Option Resolved := (integer? s.toList).bind ofInteger?

def unsignedPart (s : List Char) : List Char :=
  match s with
  | '-' :: digits => digits
  | '+' :: digits => digits
  | digits => digits

def ofPlain (s : String) : Resolved :=
  if s.isEmpty || null? s then .unit
  else
    match bool? s, int? s with
    | some b, _ => .bool b
    | none, some n => n
    | none, none =>
        if hasLeadingZero (unsignedPart s.toList) then .text s
        else (float? s).getD (.text s)

def checked (s expected : String) : Option Resolved → Except TagMismatch Resolved
  | some r => .ok r
  | none => .error ⟨s, expected⟩

-- A known tag binds a scalar of any style; another leaves a plain scalar to its looks if it is
-- local.
def ofScalar (tag : Option Tag) (style : Style) (s : String) : Except TagMismatch Resolved :=
  match tag with
  | none => .ok (if style = .plain then ofPlain s else .text s)
  | some tag =>
      if tag = Tag.bool then checked s "a boolean" ((bool? s).map .bool)
      else if tag = Tag.int then checked s "an integer" (int? s)
      else if tag = Tag.float then checked s "a float" (float? s)
      else if tag = Tag.null then checked s "null" (if null? s then some .unit else none)
      else if tag.isLocal && style = .plain then .ok (ofPlain s)
      else .ok (.text s)

end Resolved

end StepCommand.Yaml
