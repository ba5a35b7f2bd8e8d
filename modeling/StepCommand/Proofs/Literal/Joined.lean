import StepCommand.Proofs.Literal

namespace StepCommand.Literal

open Text (intercalate_pieces notMem_of_mem_pieces pieces pieces_ne_nil)

inductive Token where
  | raw (content : List Char)
  | interpreted (content : List Char)
  | plus

-- Where a reader stands. Inside of a string it has what it has met there.
inductive Place where
  | outside
  | inRaw (content : List Char)
  | inInterpreted (content : List Char)

-- A raw string ends at the next backquote, whatever stands before it. Escapes are not read.
def tokens? : Place → List Char → Option (List Token)
  | .outside, [] => some []
  | .outside, c :: rest =>
      if c = '\x60' then tokens? (.inRaw []) rest
      else if c = '"' then tokens? (.inInterpreted []) rest
      else if c = '+' then (tokens? .outside rest).map (.plus :: ·)
      else if c = ' ' then tokens? .outside rest
      else none
  | .inRaw _, [] => none
  | .inRaw content, c :: rest =>
      if c = '\x60' then (tokens? .outside rest).map (.raw content :: ·)
      else tokens? (.inRaw (content ++ [c])) rest
  | .inInterpreted _, [] => none
  | .inInterpreted content, c :: rest =>
      if c = '"' then (tokens? .outside rest).map (.interpreted content :: ·)
      else if c = '\\' ∨ c = '\n' then none
      else tokens? (.inInterpreted (content ++ [c])) rest

-- What may be joined here: raw strings, and a backquote between double quotes.
inductive Operand where
  | raw (content : String)
  | backquote

def Token.operand? : Token → Option Operand
  | .raw content => some (.raw (String.ofList content))
  | .interpreted content => if content = ['\x60'] then some .backquote else none
  | .plus => none

-- Strings with a plus sign between each two of them.
def joined? : List Token → Option (List Operand)
  | [token] => token.operand?.map ([·])
  | token :: .plus :: rest =>
      token.operand?.bind fun operand => (joined? rest).map (operand :: ·)
  | _ => none

def operands? (expression : String) : Option (List Operand) :=
  (tokens? .outside expression.toList).bind joined?

def Operand.value : Operand → String
  | raw content => rawValue content
  | backquote => "`"

-- The value of strings that are joined.
def valueOf (operands : List Operand) : String := String.join (operands.map Operand.value)

variable {content s rest first : List Char} {more : List (List Char)}

-- What stands for a backquote: the end of a raw string, the backquote, and another raw string.
def escape : List Char :=
  ['\x60', ' ', '+', ' ', '"', '\x60', '"', ' ', '+', ' ', '\x60']

-- What the pieces between the backquotes are written as.
def operandsOf : List (List Char) → List Operand
  | [] => []
  | [last] => [.raw (String.ofList last)]
  | piece :: rest => .raw (String.ofList piece) :: .backquote :: operandsOf rest

theorem tokens?_inRaw (h : '\x60' ∉ s) :
    tokens? (.inRaw content) (s ++ '\x60' :: rest) =
      (tokens? .outside rest).map (.raw (content ++ s) :: ·) := by
  induction s generalizing content with
  | nil => simp [tokens?]
  | cons c s ih =>
      rw [List.mem_cons, not_or] at h
      obtain ⟨hc, hs⟩ := h
      rw [List.cons_append, tokens?, if_neg (Ne.symm hc), ih hs, List.append_assoc,
        List.singleton_append]

theorem tokens?_escape (h : '\x60' ∉ s) :
    tokens? (.inRaw content) (s ++ escape ++ rest) =
      (tokens? (.inRaw []) rest).map
        ([.raw (content ++ s), .plus, .interpreted ['\x60'], .plus] ++ ·) := by
  have hescape : s ++ escape ++ rest =
      s ++ '\x60' :: (' ' :: '+' :: ' ' :: '"' :: '\x60' :: '"' :: ' ' :: '+' :: ' ' :: '\x60' ::
        rest) := by
    simp [escape]
  rw [hescape, tokens?_inRaw h]
  cases hrest : tokens? (.inRaw []) rest <;> simp [tokens?, hrest]

theorem joined?_tokens_escape (h : '\x60' ∉ first) (hmore : ∀ piece ∈ more, '\x60' ∉ piece) :
    (tokens? (.inRaw []) (escape.intercalate (first :: more) ++ ['\x60'])).bind joined? =
      some (operandsOf (first :: more)) := by
  induction more generalizing first with
  | nil =>
      rw [List.intercalate_singleton, tokens?_inRaw h]
      rfl
  | cons second more ih =>
      obtain ⟨hsecond, hothers⟩ := List.forall_mem_cons.mp hmore
      have hrest := ih hsecond hothers
      rw [List.intercalate_cons_cons, List.append_assoc (first ++ escape), tokens?_escape h]
      cases htokens : tokens? (.inRaw []) (escape.intercalate (second :: more) ++ ['\x60']) with
      | none => simp [htokens] at hrest
      | some tokens =>
          rw [htokens, Option.bind_some] at hrest
          simp [joined?, Token.operand?, hrest, operandsOf]

theorem valueOf_operandsOf (first : List Char) (more : List (List Char)) :
    valueOf (operandsOf (first :: more)) =
      rawValue (String.ofList (['\x60'].intercalate (first :: more))) := by
  induction more generalizing first with
  | nil => simp [operandsOf, valueOf, Operand.value]
  | cons second more ih =>
      have hrest := ih second
      rw [List.intercalate_cons_cons]
      simp only [operandsOf, valueOf, List.map_cons, String.join_cons, Operand.value] at hrest ⊢
      rw [hrest, ← String.toList_inj]
      simp [rawValue]

-- A text is written piece by piece, and read as it is but for carriage returns.
theorem operands?_escape (s : List Char) :
    ∃ operands,
      operands? (rawString (String.ofList
        (s.flatMap fun c => if c = '\x60' then escape else [c]))) = some operands ∧
      valueOf operands = rawValue (String.ofList s) := by
  obtain ⟨first, more, hpieces⟩ := List.exists_cons_of_ne_nil (pieces_ne_nil '\x60' s)
  have hnot : ∀ piece ∈ first :: more, '\x60' ∉ piece :=
    fun piece hpiece => notMem_of_mem_pieces (hpieces ▸ hpiece)
  obtain ⟨hfirst, hmore⟩ := List.forall_mem_cons.mp hnot
  refine ⟨operandsOf (first :: more), ?_, ?_⟩
  · rw [← Text.intercalate_pieces_eq_flatMap, hpieces, ← joined?_tokens_escape hfirst hmore]
    simp [operands?, rawString, tokens?]
  · rw [valueOf_operandsOf, ← hpieces, intercalate_pieces]
    have hsame : (s.map fun c => if c = '\x60' then '\x60' else c) = s := by
      refine (List.map_congr_left fun c _ => ?_).trans (List.map_id s)
      split <;> simp_all
    rw [hsame]

example : (operands? "`a` + \"`\" + ``").map valueOf = some "a`" := by decide +kernel

end StepCommand.Literal
