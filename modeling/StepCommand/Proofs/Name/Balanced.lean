import StepCommand.Proofs.Name
import StepCommand.Proofs.Value.Balanced

namespace StepCommand

namespace Text

variable {c : Char} {s : List Char}

theorem delimiters_cons (c : Char) (s : List Char) :
    delimiters (c :: s) = delimiters [c] ++ delimiters s := by
  rw [← delimiters_append, List.singleton_append]

theorem delimiters_singleton (h : Delimiter.ofCode? c.toNat = none) : delimiters [c] = [] := by
  simp [delimiters, h]

theorem delimiters_replaceFrom {pattern replacement : List Char} (hne : pattern ≠ [])
    (hpattern : delimiters pattern = []) (hreplacement : delimiters replacement = []) (skip : Nat) :
    delimiters (replaceFrom pattern replacement skip s) = delimiters (s.drop skip) := by
  induction s generalizing skip with
  | nil => simp [replaceFrom]
  | cons c rest ih =>
      cases skip with
      | succ skip => rw [replaceFrom, ih, List.drop_succ_cons]
      | zero =>
          rw [replaceFrom, List.drop_zero]
          split
          next hmatch =>
            obtain ⟨more, hmore⟩ := List.isPrefixOf_iff_prefix.mp hmatch
            have hdrop : rest.drop (pattern.length - 1) = more := by
              obtain ⟨first, others, rfl⟩ := List.exists_cons_of_ne_nil hne
              rw [← (List.cons_eq_cons.mp hmore).2]
              simp
            rw [delimiters_append, hreplacement, ih, hdrop, ← hmore, delimiters_append, hpattern]
          next => rw [delimiters_cons, ih, List.drop_zero, ← delimiters_cons]

theorem delimiters_replaceAll {pattern replacement : String} (hne : pattern ≠ "")
    (hpattern : delimiters pattern.toList = []) (hreplacement : delimiters replacement.toList = [])
    (s : String) :
    delimiters (replaceAll pattern replacement s).toList = delimiters s.toList := by
  have hlist : pattern.toList ≠ [] := fun h => hne (String.toList_eq_nil_iff.mp h)
  rw [replaceAll, String.toList_ofList, delimiters_replaceFrom hlist hpattern hreplacement,
    List.drop_zero]

theorem delimiters_trimStart (s : List Char) : delimiters (trimStart s) = delimiters s := by
  have hblank : ∀ n ∈ Delimiter.codes, blank.contains n = false := by decide
  induction s with
  | nil => rfl
  | cons c rest ih =>
      unfold trimStart at ih ⊢
      rw [List.dropWhile_cons]
      split
      next hc =>
        have hnone : Delimiter.ofCode? c.toNat = none := by
          by_contra hne
          rw [isBlank, hblank _ (Delimiter.mem_codes hne)] at hc
          cases hc
        rw [ih, delimiters_cons c, delimiters_singleton hnone, List.nil_append]
      next => rfl

theorem delimiters_reverse (s : List Char) : delimiters s.reverse = (delimiters s).reverse :=
  List.filterMap_reverse

theorem delimiters_trim (s : List Char) : delimiters (trim s) = delimiters s := by
  rw [trim, trimEnd, delimiters_reverse, delimiters_trimStart, delimiters_reverse,
    List.reverse_reverse, delimiters_trimStart]

theorem ofCode?_ofNat {n : Nat} (h : n ∉ Delimiter.codes) :
    Delimiter.ofCode? (Char.ofNat n).toNat = none := by
  have hnat : (Char.ofNat n).toNat = n ∨ (Char.ofNat n).toNat = 0 := by
    by_cases hvalid : n.isValidChar
    · rw [Char.ofNat, dif_pos hvalid]
      exact .inl rfl
    · rw [Char.ofNat, dif_neg hvalid]
      exact .inr rfl
  rcases hnat with hn | hn
  · by_contra hne
    exact h (hn ▸ Delimiter.mem_codes hne)
  · rw [hn]
    rfl

-- No run of letters comes to lie over a bracket.
theorem notMem_of_upper? {n code : Nat}
    (h : caseRuns.findSome? (·.upper? n) = some code) : code ∉ Delimiter.codes := by
  have hruns : ∀ run ∈ caseRuns, ∀ k ∈ Delimiter.codes,
      (k : Int) < run.first + run.shift ∨ run.last + run.shift < k := by
    decide +kernel
  obtain ⟨run, hrun, hn, rfl⟩ := exists_run_of_upper? h
  intro hmem
  have hcodes : ∀ k ∈ Delimiter.codes, 0 < k := by decide
  have hpos := hcodes _ hmem
  have hrange := hruns run hrun _ hmem
  omega

theorem delimiters_upper (c : Char) : delimiters (upper c) = delimiters [c] := by
  by_cases hbracket : c.toNat ∈ Delimiter.codes
  · have hsame : ∀ n ∈ Delimiter.codes, upper (Char.ofNat n) = [Char.ofNat n] := by decide +kernel
    have hupper := hsame _ hbracket
    rw [Char.ofNat_toNat] at hupper
    rw [hupper]
  · have hnone : Delimiter.ofCode? c.toNat = none := by
      by_contra hne
      exact hbracket (Delimiter.mem_codes hne)
    rw [delimiters_singleton hnone, upper]
    split
    next codes hcodes =>
      have hall : ∀ entry ∈ expansions, ∀ n ∈ entry.2, n ∉ Delimiter.codes := by decide +kernel
      obtain ⟨before, after, hexpansions, _⟩ := List.lookup_eq_some_iff.mp hcodes
      refine delimiters_eq_nil_iff.mpr fun d hd => ?_
      obtain ⟨n, hn, rfl⟩ := List.mem_map.mp hd
      exact ofCode?_ofNat (hall (c.toNat, codes) (by simp [hexpansions]) n hn)
    next =>
      split
      next code hcode => exact delimiters_singleton (ofCode?_ofNat (notMem_of_upper? hcode))
      next => exact delimiters_singleton hnone

end Text

namespace Name

open Text (delimiters IsBalanced)

theorem delimiters_capitalizeAcronyms (name : String) :
    delimiters (capitalizeAcronyms name).toList = delimiters name.toList := by
  have hall : ∀ entry ∈ acronyms, entry.1 ≠ "" ∧ delimiters entry.1.toList = [] ∧
      delimiters entry.2.toList = [] := by
    decide
  refine capitalizeAcronyms_of_replaceAll
    (P := fun s => delimiters s.toList = delimiters name.toList) ?_ rfl
  intro entry hentry s hs
  obtain ⟨hne, hpattern, hreplacement⟩ := hall entry hentry
  rw [Text.delimiters_replaceAll hne hpattern hreplacement, hs]

theorem delimiters_titleFrom (start : Bool) (s : List Char) :
    delimiters (titleFrom start s) = delimiters s := by
  induction s generalizing start with
  | nil => rfl
  | cons c rest ih =>
      rw [titleFrom, Text.delimiters_append, ih, Text.delimiters_cons]
      cases start with
      | false => rfl
      | true => rw [if_pos rfl, Text.delimiters_upper]

theorem delimiters_title (s : String) : delimiters (title s).toList = delimiters s.toList := by
  rw [title, String.toList_ofList, delimiters_titleFrom]

theorem delimiters_exported (name : String) :
    delimiters (exported name).toList = delimiters name.toList := by
  rw [exported, delimiters_title, delimiters_capitalizeAcronyms]

theorem delimiters_rawText (s : String) : delimiters (rawText s).toList = delimiters s.toList := by
  rw [rawText, String.toList_ofList, Text.delimiters_trim,
    Text.delimiters_replaceAll (by decide) rfl rfl]

variable {s : String}

theorem isBalanced_title (h : IsBalanced s) : IsBalanced (title s) := by
  rwa [IsBalanced, delimiters_title]

theorem isBalanced_exported (h : IsBalanced s) : IsBalanced (exported s) := by
  rwa [IsBalanced, delimiters_exported]

theorem isBalanced_rawText (h : IsBalanced s) : IsBalanced (rawText s) := by
  rwa [IsBalanced, delimiters_rawText]

-- The characters of identifiers are no brackets.
theorem delimiters_of_isIdentifier (h : isIdentifier s = true) : delimiters s.toList = [] := by
  have hword : ∀ n ∈ Text.Delimiter.codes, Text.isWordChar (Char.ofNat n) = false := by
    decide +kernel
  refine Text.delimiters_eq_nil_iff.mpr fun c hc => ?_
  by_contra hne
  have hnot := hword _ (Text.Delimiter.mem_codes hne)
  rw [Char.ofNat_toNat, isWordChar_of_isIdentifier h hc] at hnot
  cases hnot

end Name

end StepCommand
