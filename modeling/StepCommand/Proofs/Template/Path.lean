import Mathlib
import StepCommand.Template.Build
import StepCommand.Template.Path

namespace StepCommand.Template

variable {c d : Char} {name word rest more : List Char} {p : Path} {part helper : String}
  {fuel : Nat}

-- Words that a template could take for something else than a name.
def reserved : List (List Char) := ["as", "null", "true", "false"].map String.toList

def isName : List Char → Bool
  | [] => false
  | c :: rest => c.isAlpha && rest.all (fun c => c.isAlphanum || c == '_') &&
      !reserved.contains (c :: rest) && !"else".toList.isPrefixOf (c :: rest)

theorem isSymbol_of_isAlphanum (h : c.isAlphanum = true) : isSymbol c = true := by
  simp [isSymbol, h]

theorem ne_of_isAlpha (h : c.isAlpha = true) (hd : d.isAlpha = false) : c ≠ d := by
  rintro rfl
  rw [h] at hd
  cases hd

theorem ne_of_isAlpha_or (hc : c.isAlpha = true ∨ c = '@') (hd : d.isAlpha = false)
    (hmark : d ≠ '@') : c ≠ d := by
  obtain hc | rfl := hc
  · exact ne_of_isAlpha hc hd
  · exact hmark.symm

theorem isDigit_of_isAlpha (h : c.isAlpha = true) : c.isDigit = false := by
  rw [Bool.eq_false_iff]
  intro hd
  delta Char.isAlpha Char.isUpper Char.isLower at h
  delta Char.isDigit at hd
  simp only [Bool.or_eq_true, Bool.and_eq_true, decide_eq_true_eq, ge_iff_le,
    UInt32.le_iff_toNat_le] at h hd
  have hbound : '9'.val.toNat < 'A'.val.toNat ∧ '9'.val.toNat < 'a'.val.toNat := by decide
  omega

-- A letter, and then letters, digits and underscores.
structure IsWord (name : List Char) : Prop where
  head : ∃ c rest, name = c :: rest ∧ c.isAlpha = true
  symbols : ∀ c ∈ name, isSymbol c = true

theorem isWord_of_isName (h : isName name = true) : IsWord name := by
  cases name with
  | nil => cases h
  | cons c rest =>
      simp only [isName, Bool.and_eq_true, List.all_eq_true, Bool.or_eq_true, beq_iff_eq] at h
      obtain ⟨⟨⟨hc, hrest⟩, -⟩, -⟩ := h
      refine ⟨⟨c, rest, rfl, hc⟩, List.forall_mem_cons.mpr ⟨?_, fun d hd => ?_⟩⟩
      · exact isSymbol_of_isAlphanum (by simp [Char.isAlphanum, hc])
      · obtain hd | rfl := hrest d hd
        · exact isSymbol_of_isAlphanum hd
        · decide

namespace IsWord

variable (h : IsWord name)
include h

theorem takeWhile_append (hd : isSymbol d = false) :
    (name ++ d :: rest).takeWhile isSymbol = name := by
  rw [List.takeWhile_append_of_pos h.symbols, List.takeWhile_cons_of_neg (by simp [hd]),
    List.append_nil]

theorem dropWhile_append (hd : isSymbol d = false) :
    (name ++ d :: rest).dropWhile isSymbol = d :: rest := by
  rw [List.dropWhile_append_of_pos h.symbols, List.dropWhile_cons_of_neg (by simp [hd])]

theorem symbol? (hd : isSymbol d = false) :
    symbol? (name ++ d :: rest) = some (String.ofList name, d :: rest) := by
  obtain ⟨c, tail, hname, -⟩ := h.head
  have hne : name.isEmpty = false := by simp [hname]
  simp only [Template.symbol?, h.takeWhile_append hd, h.dropWhile_append hd, hne,
    Bool.false_eq_true, if_false]

theorem identifier? (hd : isSymbol d = false) (hslash : d ≠ '/') :
    identifier? (name ++ d :: rest) = some (String.ofList name, d :: rest) := by
  obtain ⟨c, tail, rfl, -⟩ := h.head
  have hall : ∀ e ∈ c :: tail, (isSymbol e || e == '/') = true := fun e he => by
    simp [h.symbols e he]
  have hstop : (isSymbol d || d == '/') = false := by simp [hd, hslash]
  have hfirst : isSymbol c = true := h.symbols c List.mem_cons_self
  simp only [Template.identifier?, List.cons_append, List.head?_cons, Option.map_some,
    Option.getD_some, hfirst, if_true]
  rw [← List.cons_append, List.takeWhile_append_of_pos hall, List.dropWhile_append_of_pos hall,
    List.takeWhile_cons, List.dropWhile_cons, hstop]
  simp

theorem skipSpace : skipSpace (name ++ rest) = name ++ rest := by
  obtain ⟨c, tail, rfl, hc⟩ := h.head
  have hspace : isTagSpace c = false := by
    simp [isTagSpace, ne_of_isAlpha hc (d := ' ') rfl, ne_of_isAlpha hc (d := '\t') rfl,
      ne_of_isAlpha hc (d := '\n') rfl, ne_of_isAlpha hc (d := '\r') rfl]
  rw [Template.skipSpace, List.cons_append, List.dropWhile_cons_of_neg (by simp [hspace])]

end IsWord

-- What a text begins with ends where the name does, or before.
theorem exists_of_isPrefixOf? (hword : ∀ c ∈ word, isSymbol c = true) (hd : isSymbol d = false)
    (h : word.isPrefixOf? (name ++ d :: rest) = some more) :
    ∃ tail, name = word ++ tail ∧ more = tail ++ d :: rest := by
  rw [List.isPrefixOf?_eq_some_iff_append_eq, List.append_eq_append_iff] at h
  obtain ⟨tail, hname, hmore⟩ | ⟨tail, rfl, htail⟩ := h
  · exact ⟨tail, hname, hmore⟩
  · cases tail with
    | nil => exact ⟨[], by simp, by simpa using htail.symm⟩
    | cons e tail =>
        obtain ⟨rfl, -⟩ := List.cons.inj htail
        rw [hword d (by simp)] at hd
        cases hd

theorem afterWord?_eq_none {word : String} (hword : ∀ c ∈ word.toList, isSymbol c = true)
    (hname : IsWord name) (hne : name ≠ word.toList) (hd : isSymbol d = false) :
    afterWord? word (name ++ d :: rest) = none := by
  unfold afterWord?
  split
  next more hmore =>
    obtain ⟨tail, rfl, rfl⟩ := exists_of_isPrefixOf? hword hd hmore
    cases tail with
    | nil => exact absurd (List.append_nil _) hne
    | cons e tail => simp [hname.symbols e (by simp)]
  next => rfl

namespace Path

theorem after?_eq_none {word : String} (hword : ∀ c ∈ word.toList, isSymbol c = true)
    (hname : IsWord name) (hd : isSymbol d = false) (hsep : isSeparator d = false) :
    after? word (name ++ d :: rest) = none := by
  have hletter : ∀ e, isSymbol e = true → isSeparator e = false := by
    intro e he
    have hpoint : e ≠ '.' := by
      rintro rfl
      exact absurd he (by decide)
    have hslash : e ≠ '/' := by
      rintro rfl
      exact absurd he (by decide)
    simp [isSeparator, hpoint, hslash]
  rw [after?, Option.bind_eq_none_iff]
  intro more hmore
  obtain ⟨tail, rfl, rfl⟩ := exists_of_isPrefixOf? hword hd hmore
  cases tail with
  | nil => simp [afterSeparator?, hsep]
  | cons e tail => simp [afterSeparator?, hletter e (hname.symbols e (by simp))]

theorem moreNames_eq_nil (hsep : isSeparator d = false) :
    moreNames fuel (d :: rest) = ([], d :: rest) := by
  cases fuel with
  | zero => rfl
  | succ fuel => simp [moreNames, afterSeparator?, hsep]

theorem outward_eq_zero (hname : IsWord name) : outward fuel (name ++ rest) = (0, name ++ rest) := by
  obtain ⟨c, tail, rfl, hc⟩ := hname.head
  cases fuel with
  | zero => rfl
  | succ fuel =>
      have hpoint : '.' ≠ c := (ne_of_isAlpha hc (d := '.') rfl).symm
      simp [outward, after?, List.isPrefixOf?, hpoint]

theorem name?_eq (hname : IsWord name) (hd : isSymbol d = false) :
    name? (name ++ d :: rest) = some (String.ofList name, d :: rest) := by
  rw [← hname.symbol? hd]
  obtain ⟨c, tail, rfl, hc⟩ := hname.head
  unfold name?
  split
  next heq => exact absurd (List.cons.inj heq).1 (ne_of_isAlpha hc rfl)
  next => rfl

theorem skipThis_name (hname : IsWord name) (hd : isSymbol d = false) (hsep : isSeparator d = false) :
    skipThis (name ++ d :: rest) = name ++ d :: rest := by
  have hthis : "this".toList.all isSymbol = true := by decide_cbv
  rw [skipThis, after?_eq_none (List.all_eq_true.mp hthis) hname hd hsep]
  obtain ⟨c, tail, rfl, hc⟩ := hname.head
  have hpoint : '.' ≠ c := (ne_of_isAlpha hc (d := '.') rfl).symm
  simp [List.isPrefixOf?, hpoint]

theorem skipThis_mark : skipThis ('@' :: rest) = '@' :: rest := by
  simp [skipThis, after?, List.isPrefixOf?]

-- What a path begins with: the whole record, and then a mark.
def rooted (s : List Char) : Bool × List Char :=
  match after? "@root" (skipThis s) with
  | some rest => (true, rest)
  | none => (false, skipThis s)

def marked (s : List Char) : Bool × List Char :=
  match s with
  | '@' :: rest => (true, rest)
  | _ => (false, s)

theorem marked_name (hname : IsWord name) : marked (name ++ rest) = (false, name ++ rest) := by
  obtain ⟨c, tail, rfl, hc⟩ := hname.head
  unfold marked
  split
  next heq => exact absurd (List.cons.inj heq).1 (ne_of_isAlpha hc rfl)
  next => rfl

theorem read?_eq (s : List Char) :
    read? s =
      let inner := marked (rooted s).2
      let steps := outward inner.2.length inner.2
      (name? steps.2).bind fun found =>
        let names := moreNames found.2.length found.2
        let text := String.ofList (s.take (s.length - names.2.length))
        some (⟨text, targetOf (rooted s).1 inner.1 steps.1 (found.1 :: names.1)⟩, names.2) := rfl

theorem read?_of_rooted {start : List Char} {fromRecord isMarked : Bool} (hname : IsWord name)
    (hd : isSymbol d = false) (hsep : isSeparator d = false)
    (hroot : rooted (word ++ d :: rest) = (fromRecord, start))
    (hmark : marked start = (isMarked, name ++ d :: rest)) :
    read? (word ++ d :: rest) =
      some (⟨String.ofList word, targetOf fromRecord isMarked 0 [String.ofList name]⟩,
        d :: rest) := by
  have htext : (word ++ d :: rest).take ((word ++ d :: rest).length - (d :: rest).length) =
      word := by
    simp
  rw [read?_eq, hroot]
  dsimp only
  rw [hmark]
  dsimp only
  rw [outward_eq_zero hname]
  dsimp only
  rw [name?_eq hname hd]
  dsimp only [Option.bind_eq_bind, Option.bind_some]
  rw [moreNames_eq_nil hsep]
  dsimp only
  rw [htext]

-- A name, alone or in the whole record; the value at hand; or whether it is the last one.
def isPlain (p : Path) : Bool :=
  match p.target with
  | .value 0 [] => p.text == "this"
  | .value 0 [name] => isName name.toList && name != "this" && p.text == name
  | .record [name] => isName name.toList && name != "this" && p.text == "@root." ++ name
  | _ => p == .last

theorem isWord_this : IsWord "this".toList where
  head := ⟨'t', ['h', 'i', 's'], by simp, rfl⟩
  symbols := by simp; decide

theorem isWord_last : IsWord "last".toList where
  head := ⟨'l', ['a', 's', 't'], by simp, rfl⟩
  symbols := by simp; decide

theorem rooted_name (hname : IsWord name) (hd : isSymbol d = false)
    (hsep : isSeparator d = false) :
    rooted (name ++ d :: rest) = (false, name ++ d :: rest) := by
  obtain ⟨c, tail, hcons, hc⟩ := hname.head
  have hmark : '@' ≠ c := (ne_of_isAlpha hc (d := '@') rfl).symm
  have hroot : after? "@root" (name ++ d :: rest) = none := by
    simp [hcons, after?, List.isPrefixOf?, hmark]
  rw [rooted, skipThis_name hname hd hsep, hroot]

theorem rooted_ofRecord {name : String} :
    rooted (("@root." ++ name).toList ++ rest) = (true, name.toList ++ rest) := by
  simp [rooted, skipThis_mark, after?, List.isPrefixOf?, afterSeparator?, isSeparator]

theorem rooted_last : rooted ("@last".toList ++ rest) = (false, "@last".toList ++ rest) := by
  simp [rooted, skipThis_mark, after?, List.isPrefixOf?]

theorem read?_of_isPlain (h : p.isPlain = true) :
    read? (p.text.toList ++ '\x7d' :: rest) = some (p, '\x7d' :: rest) := by
  have hd : isSymbol '\x7d' = false := by decide
  have hsep : isSeparator '\x7d' = false := by decide
  obtain ⟨text, target⟩ := p
  unfold isPlain at h
  split at h
  next htarget =>
    obtain rfl : target = _ := htarget
    obtain rfl := eq_of_beq h
    rw [read?_of_rooted isWord_this hd hsep (rooted_name isWord_this hd hsep)
      (marked_name isWord_this), String.ofList_toList]
    simp [targetOf]
  next name htarget =>
    obtain rfl : target = _ := htarget
    simp only [Bool.and_eq_true, bne_iff_ne, beq_iff_eq] at h
    obtain ⟨⟨hname, hthis⟩, rfl⟩ := h
    have hword := isWord_of_isName hname
    rw [read?_of_rooted hword hd hsep (rooted_name hword hd hsep) (marked_name hword),
      String.ofList_toList]
    simp [targetOf, hthis]
  next name htarget =>
    obtain rfl : target = _ := htarget
    simp only [Bool.and_eq_true, bne_iff_ne, beq_iff_eq] at h
    obtain ⟨⟨hname, hthis⟩, rfl⟩ := h
    have hword := isWord_of_isName hname
    rw [read?_of_rooted hword hd hsep rooted_ofRecord (marked_name hword),
      String.ofList_toList, String.ofList_toList]
    simp [targetOf, hthis]
  next =>
    have hlast : (⟨text, target⟩ : Path) = .last := eq_of_beq h
    have hmark : marked ("@last".toList ++ '\x7d' :: rest) =
        (true, "last".toList ++ '\x7d' :: rest) := by simp [marked]
    have hread := read?_of_rooted isWord_last hd hsep rooted_last hmark
    rw [String.ofList_toList, String.ofList_toList] at hread
    rw [hlast]
    exact hread

end Path

end StepCommand.Template
