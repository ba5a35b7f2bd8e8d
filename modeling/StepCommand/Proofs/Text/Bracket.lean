import Mathlib.Data.List.Basic
import StepCommand.Proofs.Text.Encoded

namespace StepCommand.Text

inductive Bracket where
  | round
  | square
  | curly
deriving DecidableEq, Repr

inductive Delimiter where
  | opening (b : Bracket)
  | closing (b : Bracket)
deriving DecidableEq, Repr

namespace Delimiter

def ofCode? : Nat → Option Delimiter
  | 0x28 => some (opening .round)
  | 0x29 => some (closing .round)
  | 0x5b => some (opening .square)
  | 0x5d => some (closing .square)
  | 0x7b => some (opening .curly)
  | 0x7d => some (closing .curly)
  | _ => none

def codes : List Nat := [0x28, 0x29, 0x5b, 0x5d, 0x7b, 0x7d]

theorem mem_codes {n : Nat} (h : ofCode? n ≠ none) : n ∈ codes := by
  unfold ofCode? at h
  split at h <;> simp_all [codes]

theorem lt_of_mem_codes {n : Nat} (h : n ∈ codes) : n < 0x80 := by
  have hall : ∀ k ∈ codes, k < 0x80 := by decide
  exact hall n h

end Delimiter

open Delimiter (ofCode?)

def delimiters (s : List Char) : List Delimiter := s.filterMap fun c => ofCode? c.toNat

inductive Nested : List Delimiter → Prop where
  | nil : Nested []
  | group (b : Bracket) {inner rest : List Delimiter} : Nested inner → Nested rest →
      Nested (.opening b :: (inner ++ .closing b :: rest))

def IsBalanced (s : String) : Prop := Nested (delimiters s.toList)

-- The brackets that are open after the delimiters, if they were those of `outer` before; the
-- innermost comes first.
def scan : List Bracket → List Delimiter → Option (List Bracket)
  | outer, [] => some outer
  | outer, .opening b :: rest => scan (b :: outer) rest
  | b :: outer, .closing c :: rest => if b = c then scan outer rest else none
  | [], .closing _ :: _ => none

variable {ds es : List Delimiter} {outer inner : List Bracket} {s t : String}

theorem scan_append : scan outer (ds ++ es) = (scan outer ds).bind fun inner => scan inner es := by
  induction ds generalizing outer with
  | nil => simp [scan]
  | cons d rest ih =>
      cases d with
      | opening b => simp only [List.cons_append, scan, ih]
      | closing b =>
          cases outer with
          | nil => simp [scan]
          | cons c outer =>
              simp only [List.cons_append, scan]
              split
              · exact ih
              · rfl

theorem scan_of_nested (h : Nested ds) (outer : List Bracket) : scan outer ds = some outer := by
  induction h generalizing outer with
  | nil => simp [scan]
  | group b _ _ hinner hrest => simp [scan, scan_append, hinner, hrest]

-- One bracket after the other is closed, and nothing is left open between them.
def Closes : List Bracket → List Delimiter → Prop
  | [], ds => Nested ds
  | b :: outer, ds => ∃ inner rest, ds = inner ++ .closing b :: rest ∧ Nested inner ∧
      Closes outer rest

theorem closes_of_scan (h : scan outer ds = some []) : Closes outer ds := by
  induction ds generalizing outer with
  | nil =>
      cases outer with
      | nil => exact .nil
      | cons b outer => simp [scan] at h
  | cons d rest ih =>
      cases d with
      | opening b =>
          obtain ⟨inner, more, rfl, hinner, hmore⟩ := ih h
          cases outer with
          | nil => exact .group b hinner hmore
          | cons c outer =>
              obtain ⟨between, after, rfl, hbetween, hafter⟩ := hmore
              exact ⟨_, after, by simp, .group b hinner hbetween, hafter⟩
      | closing b =>
          cases outer with
          | nil => simp [scan] at h
          | cons c outer =>
              simp only [scan] at h
              split at h
              next hbc =>
                subst hbc
                exact ⟨[], rest, rfl, .nil, ih h⟩
              next => cases h

theorem nested_iff : Nested ds ↔ scan [] ds = some [] :=
  ⟨fun h => scan_of_nested h [], closes_of_scan⟩

instance (s : String) : Decidable (IsBalanced s) := decidable_of_iff _ nested_iff.symm

@[simp] theorem delimiters_append (s t : List Char) :
    delimiters (s ++ t) = delimiters s ++ delimiters t :=
  List.filterMap_append

theorem IsBalanced.scan (h : IsBalanced s) (outer : List Bracket) :
    Text.scan outer (delimiters s.toList) = some outer :=
  scan_of_nested h outer

-- A text without brackets is balanced.
theorem isBalanced_of_delimiters (h : delimiters s.toList = []) : IsBalanced s := by
  rw [IsBalanced, h]
  exact .nil

theorem isBalanced_empty : IsBalanced "" := .nil

theorem IsBalanced.append (hs : IsBalanced s) (ht : IsBalanced t) : IsBalanced (s ++ t) := by
  rw [IsBalanced, nested_iff, String.toList_append, delimiters_append, scan_append,
    hs.scan, Option.bind_some, ht.scan]

theorem IsBalanced.intercalate {separator : String} {ss : List String}
    (hseparator : IsBalanced separator) (h : ∀ s ∈ ss, IsBalanced s) :
    IsBalanced (separator.intercalate ss) := by
  induction ss with
  | nil => exact isBalanced_empty
  | cons s rest ih =>
      obtain ⟨hs, hrest⟩ := List.forall_mem_cons.mp h
      cases rest with
      | nil => simpa using hs
      | cons t more =>
          rw [String.intercalate_cons_cons]
          exact (hs.append hseparator).append (ih hrest)

-- What stands in brackets of one kind.
theorem IsBalanced.group {opening closing : String} (b : Bracket)
    (hopening : delimiters opening.toList = [.opening b])
    (hclosing : delimiters closing.toList = [.closing b]) (hs : IsBalanced s) :
    IsBalanced (opening ++ s ++ closing) := by
  rw [IsBalanced, String.toList_append, String.toList_append, delimiters_append, delimiters_append,
    hopening, hclosing]
  exact .group b hs .nil

def encodedDelimiters (s : String) : List Delimiter :=
  (encoded s).filterMap fun b => ofCode? b.toNat

theorem encoded_eq_flatMap (s : String) : encoded s = s.toList.flatMap String.utf8EncodeChar := by
  rw [encoded, ← String.utf8Encode_toList, List.utf8Encode, List.toList_data_toByteArray]

theorem ofCode?_of_le {n : Nat} (h : 0x80 ≤ n) : ofCode? n = none := by
  by_contra hne
  exact absurd (Delimiter.lt_of_mem_codes (Delimiter.mem_codes hne)) (Nat.not_lt.mpr h)

-- Brackets are encoded by one byte, which is in no encoding of another character.
theorem filterMap_utf8EncodeChar (c : Char) :
    (String.utf8EncodeChar c).filterMap (fun b => ofCode? b.toNat) = (ofCode? c.toNat).toList := by
  have hlow : ∀ n, n ≤ 0x7f → (UInt8.ofNat n).toNat = n := fun n hn =>
    UInt8.toNat_ofNat_of_lt' (Nat.lt_of_le_of_lt hn (by decide))
  have hhigh : ∀ n, 0x80 ≤ n → n < 0x100 → ofCode? (UInt8.ofNat n).toNat = none := by
    intro n hn hlt
    rw [UInt8.toNat_ofNat_of_lt' hlt]
    exact ofCode?_of_le hn
  have hnone : 0x7f < c.toNat → ofCode? c.toNat = none := fun h => ofCode?_of_le h
  rw [Char.toNat] at *
  simp only [String.utf8EncodeChar]
  split_ifs with h₁ h₂ h₃
  · rw [List.filterMap_cons, hlow _ h₁]
    cases ofCode? c.val.toNat <;> rfl
  · simp (disch := omega) only [List.filterMap_cons, List.filterMap_nil, hhigh, hnone,
      Option.toList_none]
  · simp (disch := omega) only [List.filterMap_cons, List.filterMap_nil, hhigh, hnone,
      Option.toList_none]
  · simp (disch := omega) only [List.filterMap_cons, List.filterMap_nil, hhigh, hnone,
      Option.toList_none]

theorem encodedDelimiters_eq (s : String) : encodedDelimiters s = delimiters s.toList := by
  rw [encodedDelimiters, encoded_eq_flatMap, delimiters]
  induction s.toList with
  | nil => rfl
  | cons c rest ih =>
      rw [List.flatMap_cons, List.filterMap_append, filterMap_utf8EncodeChar, ih,
        List.filterMap_cons]
      cases ofCode? c.toNat <;> rfl

end StepCommand.Text
