namespace StepCommand.Yaml

-- `index` counts bytes, `column` characters; line and column count from zero.
structure Mark where
  index : Nat
  line : Nat
  column : Nat
deriving DecidableEq, Repr, Inhabited

namespace Mark

def start : Mark := ⟨0, 0, 0⟩

def atStart (m : Mark) : Bool := m.line == 0 && m.column == 0

def samePlace (a b : Mark) : Bool := a.line == b.line && a.column == b.column

-- The place after characters that do not break the line.
def past (m : Mark) (chars : List Char) : Mark :=
  { m with
    index := chars.foldl (fun n c => n + c.utf8Size) m.index
    column := m.column + chars.length }

def nextLine (m : Mark) (bytes : Nat) : Mark := ⟨m.index + bytes, m.line + 1, 0⟩

-- Readers count from one.
def text (m : Mark) : String :=
  "line " ++ toString (m.line + 1) ++ " column " ++ toString (m.column + 1)

end Mark

end StepCommand.Yaml
