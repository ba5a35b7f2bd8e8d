import Mathlib.Data.List.Basic

namespace StepCommand.Literal

-- A text as the bytes of its encoding.
def bytes (s : List Char) : List UInt8 := s.flatMap String.utf8EncodeChar

def digit? (c : Char) : Option Nat :=
  if '0' ≤ c ∧ c ≤ '9' then some (c.toNat - '0'.toNat)
  else if 'a' ≤ c ∧ c ≤ 'f' then some (c.toNat - 'a'.toNat + 10)
  else if 'A' ≤ c ∧ c ≤ 'F' then some (c.toNat - 'A'.toNat + 10)
  else none

def number? (base : Nat) (digits : List Char) : Option Nat :=
  digits.foldlM (fun n c => (digit? c).bind fun d => if d < base then some (base * n + d) else none)
    0

def controls : List (Char × UInt8) := [
  ('a', 7), ('b', 8), ('f', 12), ('n', 10), ('r', 13), ('t', 9), ('v', 11), ('\\', 92), ('"', 34)]

-- Octal and hexadecimal escapes give one byte; the others give a character.
inductive Element : List Char → List UInt8 → Prop where
  | plain {c : Char} (h : c ∉ ['"', '\\', '\n']) : Element [c] (String.utf8EncodeChar c)
  | control {c : Char} {b : UInt8} (h : (c, b) ∈ controls) : Element ['\\', c] [b]
  | octal {digits : List Char} {n : Nat} (hlength : digits.length = 3)
      (hnumber : number? 8 digits = some n) (hbyte : n < 256) :
      Element ('\\' :: digits) [UInt8.ofNat n]
  | hexadecimal {digits : List Char} {n : Nat} (hlength : digits.length = 2)
      (hnumber : number? 16 digits = some n) : Element ('\\' :: 'x' :: digits) [UInt8.ofNat n]
  | codePoint {letter : Char} {digits : List Char} {n : Nat}
      (hlength : (letter, digits.length) ∈ [('u', 4), ('U', 8)])
      (hnumber : number? 16 digits = some n) (hvalid : n.isValidChar) :
      Element ('\\' :: letter :: digits) (String.utf8EncodeChar (Char.ofNat n))

inductive Content : List Char → List UInt8 → Prop where
  | nil : Content [] []
  | cons {source more : List Char} {value rest : List UInt8} (first : Element source value)
      (others : Content more rest) : Content (source ++ more) (value ++ rest)

def quoted (s : String) : String := "\"" ++ s ++ "\""

-- The literal is all of the text, and its value is that of `s`.
def Interprets (literal s : String) : Prop :=
  ∃ source, literal = quoted (String.ofList source) ∧ Content source (bytes s.toList)

-- A text that stands for itself between double quotes.
def IsPlain (s : String) : Prop := ∀ c ∈ s.toList, c ∉ ['"', '\\', '\n']

instance (s : String) : Decidable (IsPlain s) :=
  List.decidableBAll (fun c => c ∉ ['"', '\\', '\n']) s.toList

variable {source : List Char} {value : List UInt8} {s : String}

theorem length_le_bytes (s : List Char) : s.length ≤ (bytes s).length := by
  induction s with
  | nil => exact Nat.le_refl _
  | cons c rest ih =>
      have hc := c.utf8Size_pos
      rw [bytes, List.flatMap_cons, List.length_append, List.length_cons,
        String.length_utf8EncodeChar]
      rw [bytes] at ih
      omega

-- An escape is longer than what it stands for.
theorem Element.plain_or_lt (h : Element source value) :
    (∃ c, source = [c] ∧ c ∉ ['"', '\\', '\n'] ∧ value = String.utf8EncodeChar c) ∨
      value.length < (bytes source).length := by
  cases h with
  | @plain c hplain => exact .inl ⟨c, rfl, hplain, rfl⟩
  | @control c b _ => exact .inr (length_le_bytes ['\\', c])
  | @octal digits n hlength _ _ =>
      refine .inr (Nat.lt_of_lt_of_le ?_ (length_le_bytes _))
      simp [hlength]
  | @hexadecimal digits n hlength _ =>
      refine .inr (Nat.lt_of_lt_of_le ?_ (length_le_bytes _))
      simp [hlength]
  | @codePoint letter digits n hlength _ _ =>
      have hvalue := (Char.ofNat n).utf8Size_le_four
      refine .inr (Nat.lt_of_lt_of_le ?_ (length_le_bytes _))
      rw [String.length_utf8EncodeChar]
      simp at hlength ⊢
      omega

theorem Content.plain_or_lt (h : Content source value) :
    ((∀ c ∈ source, c ∉ ['"', '\\', '\n']) ∧ value = bytes source) ∨
      value.length < (bytes source).length := by
  induction h with
  | nil => exact .inl ⟨by simp, rfl⟩
  | @cons source more value rest first _ ih =>
      have hbytes : bytes (source ++ more) = bytes source ++ bytes more := List.flatMap_append
      rw [hbytes, List.length_append, List.length_append]
      obtain ⟨c, rfl, hplain, rfl⟩ | hlonger := first.plain_or_lt
      · have hc : bytes [c] = String.utf8EncodeChar c := List.append_nil _
        rw [hc]
        obtain ⟨hmore, rfl⟩ | hlonger := ih
        · exact .inl ⟨List.forall_mem_cons.mpr ⟨hplain, hmore⟩, rfl⟩
        · exact .inr (Nat.add_lt_add_left hlonger _)
      · have hmore : rest.length ≤ (bytes more).length := by
          obtain ⟨_, rfl⟩ | hlonger := ih
          · exact Nat.le_refl _
          · exact Nat.le_of_lt hlonger
        exact .inr (Nat.add_lt_add_of_lt_of_le hlonger hmore)

theorem content_of_plain (h : ∀ c ∈ source, c ∉ ['"', '\\', '\n']) :
    Content source (bytes source) := by
  induction source with
  | nil => exact .nil
  | cons c rest ih =>
      obtain ⟨hc, hrest⟩ := List.forall_mem_cons.mp h
      have hfirst : Element [c] (String.utf8EncodeChar c) := .plain hc
      exact .cons hfirst (ih hrest)

-- A literal is read in one way only, and an escape in it never gives back the text it is written
-- with.
theorem interprets_quoted_iff : Interprets (quoted s) s ↔ IsPlain s := by
  constructor
  · rintro ⟨source, hsource, hcontent⟩
    have hs : source = s.toList := by
      have hlist := congrArg String.toList hsource
      simpa [quoted, eq_comm] using hlist
    subst hs
    obtain ⟨hplain, _⟩ | hlonger := hcontent.plain_or_lt
    · exact hplain
    · exact absurd hlonger (Nat.lt_irrefl _)
  · intro h
    exact ⟨s.toList, by rw [String.ofList_toList], content_of_plain h⟩

end StepCommand.Literal
