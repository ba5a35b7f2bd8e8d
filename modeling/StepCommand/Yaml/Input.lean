import StepCommand.Yaml.Fault

namespace StepCommand.Yaml

def isAllowed (c : Char) : Bool :=
  let n := c.toNat
  n == 0x9 || n == 0xa || n == 0xd || (0x20 ≤ n && n ≤ 0x7e) || n == 0x85 ||
    (0xa0 ≤ n && n ≤ 0xfffd) || 0x10000 ≤ n

-- `refused` is the place of the character that ends the reading, counted in bytes.
structure Input where
  readable : List Char
  refused : Option Nat
deriving DecidableEq, Repr

namespace Input

-- The size of a portion in bytes.
def portionSize : Nat := 16384

def portion : Nat → List Char → List Char × List Char
  | _, [] => ([], [])
  | size, c :: rest =>
      if c.utf8Size ≤ size then
        let (taken, left) := portion (size - c.utf8Size) rest
        (c :: taken, left)
      else ([], c :: rest)

def bytes (chars : List Char) : Nat := chars.foldl (fun n c => n + c.utf8Size) 0

def refusedIn? (offset : Nat) (chars : List Char) : Option Nat :=
  match chars.dropWhile isAllowed with
  | [] => none
  | _ => some (offset + bytes (chars.takeWhile isAllowed))

def portions : Nat → Nat → List Char → Input
  | 0, _, _ => ⟨[], none⟩
  | _, _, [] => ⟨[], none⟩
  | fuel + 1, offset, chars =>
      let (taken, left) := portion portionSize chars
      match refusedIn? offset taken with
      | some place => ⟨[], some place⟩
      | none =>
          let more := portions fuel (offset + bytes taken) left
          { more with readable := taken ++ more.readable }

-- A text is taken in portions, and a portion with a character that no document may hold is not
-- read at all.
def ofText (chars : List Char) : Input := portions (chars.length + 1) 0 chars

end Input

end StepCommand.Yaml
