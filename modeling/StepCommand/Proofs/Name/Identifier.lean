import StepCommand.Proofs.Assembly
import StepCommand.Proofs.Name

namespace StepCommand

namespace Text

variable {c : Char} {n code low high : Nat}

-- The letters that have no upper case of their own. It is written as another letter, with marks
-- after it.
def markedLetters : List Nat := [
  0x1f0, 0x390, 0x3b0, 0x1e96, 0x1e97, 0x1e98, 0x1e99, 0x1f50, 0x1f52, 0x1f54, 0x1f56, 0x1fb6,
  0x1fb7, 0x1fc6, 0x1fc7, 0x1fd2, 0x1fd3, 0x1fd6, 0x1fd7, 0x1fe2, 0x1fe3, 0x1fe4, 0x1fe6, 0x1fe7,
  0x1ff6, 0x1ff7]

def isMarked (c : Char) : Bool := c.toNat ∈ markedLetters

-- Does one of the intervals reach from `low` to `high`?
def Intervals.covers : Intervals → Nat → Nat → Bool
  | [], _, _ => false
  | (first, last) :: rest, low, high =>
      Nat.ble first low && (Nat.ble high last || covers rest low high)

theorem Intervals.contains_of_covers {s : Intervals} (h : s.covers low high = true)
    (hlow : low ≤ n) (hhigh : n ≤ high) : s.contains n = true := by
  induction s with
  | nil => cases h
  | cons interval rest ih =>
      obtain ⟨first, last⟩ := interval
      rw [covers, Bool.and_eq_true, Bool.or_eq_true, Nat.ble_eq, Nat.ble_eq] at h
      have hfirst : ¬ n < first := Nat.not_lt.mpr (Nat.le_trans h.1 hlow)
      rw [contains, if_neg hfirst, Bool.or_eq_true]
      exact h.2.imp (fun hlast => decide_eq_true (Nat.le_trans hhigh hlast)) ih

-- A run leads to an interval of letters; where it takes every other code point, these may lie in
-- several intervals.
theorem isAlphabetic_of_upper? (h : caseRuns.findSome? (·.upper? n) = some code) :
    isAlphabetic (Char.ofNat code) = true := by
  have hruns : ∀ run ∈ caseRuns,
      (0 < run.first + run.shift ∧
        (run.last + run.shift < 0xd800 ∨
          0xdfff < run.first + run.shift ∧ run.last + run.shift < 0x110000)) ∧
      (alphabetic.covers (run.first + run.shift).toNat (run.last + run.shift).toNat = true ∨
        run.stride = 2 ∧ ∀ k < (run.last - run.first) / 2 + 1,
          alphabetic.covers (run.first + 2 * k + run.shift).toNat
            (run.first + 2 * k + run.shift).toNat = true) := by
    decide +kernel
  obtain ⟨run, hrun, hn, rfl⟩ := exists_run_of_upper? h
  obtain ⟨⟨hpos, hrange⟩, hletters⟩ := hruns run hrun
  have hvalid : ((n : Int) + run.shift).toNat.isValidChar := by
    rw [Nat.isValidChar]
    omega
  rw [isAlphabetic, Char.ofNat, dif_pos hvalid]
  change alphabetic.contains ((n : Int) + run.shift).toNat = true
  obtain hall | ⟨hstride, hall⟩ := hletters
  · exact Intervals.contains_of_covers hall (by omega) (by omega)
  · rw [hstride] at hn
    have hcode := hall ((n - run.first) / 2) (by omega)
    exact Intervals.contains_of_covers hcode (by omega) (by omega)

-- The upper case of what begins a name begins a name, and unless there is a mark in it, it is part
-- of one.
theorem upper_of_isInitial (h : isInitial c = true) :
    (upper c).head?.any isInitial = true ∧
      ((upper c).all isWordChar = true ↔ isMarked c = false) := by
  rw [upper]
  split
  next codes hcodes =>
    have hwritten : ∀ entry ∈ expansions, (entry.2.map Char.ofNat).head?.any isInitial = true ∧
        (entry.2.map Char.ofNat).all isWordChar = decide (entry.1 ∉ markedLetters) := by
      decide +kernel
    obtain ⟨before, after, hexpansions, _⟩ := List.lookup_eq_some_iff.mp hcodes
    obtain ⟨hhead, hall⟩ := hwritten (c.toNat, codes) (by simp [hexpansions])
    exact ⟨hhead, by simp [hall, isMarked]⟩
  next hnone =>
    have hmarked : ∀ n ∈ markedLetters, (expansions.lookup n).isSome = true := by decide +kernel
    have hunmarked : isMarked c = false := by
      refine decide_eq_false fun hmem => ?_
      have hsome := hmarked _ hmem
      rw [hnone] at hsome
      cases hsome
    rw [hunmarked]
    split
    next code hcode =>
      have hletter : isInitial (Char.ofNat code) = true := by
        rw [isInitial, isAlphabetic_of_upper? hcode, Bool.true_or]
      simp [hletter, isWordChar_of_isInitial hletter]
    next => simp [h, isWordChar_of_isInitial h]

end Text

namespace Name

open Text (isInitial isMarked isWordChar isWordChar_of_isInitial replaceAll replaceFrom upper
  upper_of_isInitial)

variable {name : String} {s : List Char}

-- Does the name begin with a letter whose upper case has a mark in it?
def hasMarkedInitial (name : String) : Bool := name.toList.head?.any isMarked

theorem titleFrom_of_isWordChar (h : ∀ c ∈ s, isWordChar c = true) : titleFrom false s = s := by
  induction s with
  | nil => rfl
  | cons c rest ih =>
      obtain ⟨hc, hrest⟩ := List.forall_mem_cons.mp h
      rw [titleFrom, hc, Bool.not_true, ih hrest]
      rfl

-- An identifier is one word, so that only its first letter changes.
theorem title_of_isIdentifier (h : isIdentifier name = true) :
    (title name).toList.head?.any isInitial = true ∧
      ((∀ c ∈ (title name).toList, isWordChar c = true) ↔ hasMarkedInitial name = false) := by
  obtain ⟨hinitial, hword⟩ := isIdentifier_iff.mp h
  rw [title, String.toList_ofList, hasMarkedInitial]
  cases hname : name.toList with
  | nil => simp [hname] at hinitial
  | cons first rest =>
      rw [hname] at hinitial hword
      obtain ⟨hfirst, hrest⟩ := List.forall_mem_cons.mp hword
      obtain ⟨hhead, hall⟩ := upper_of_isInitial hinitial
      rw [titleFrom, hfirst, Bool.not_true, titleFrom_of_isWordChar hrest, if_pos rfl]
      rw [List.all_eq_true] at hall
      constructor
      · cases hupper : upper first with
        | nil => simp [hupper] at hhead
        | cons u more => simpa [hupper] using hhead
      · rw [List.forall_mem_append, List.head?_cons, Option.any_some, ← hall]
        exact and_iff_left hrest

theorem isIdentifier_append_iff {first rest : String}
    (h : first.toList.head?.any isInitial = true) :
    isIdentifier (first ++ rest) = true ↔
      (∀ c ∈ first.toList, isWordChar c = true) ∧ ∀ c ∈ rest.toList, isWordChar c = true := by
  rw [isIdentifier_iff, String.toList_append, List.forall_mem_append]
  cases hfirst : first.toList with
  | nil => simp [hfirst] at h
  | cons c more =>
      rw [hfirst] at h
      exact and_iff_right h

theorem mem_of_mem_replaceFrom {pattern replacement : List Char} {skip : Nat} {c : Char}
    (h : c ∈ replaceFrom pattern replacement skip s) : c ∈ replacement ∨ c ∈ s := by
  induction s generalizing skip with
  | nil => simp [replaceFrom] at h
  | cons first rest ih =>
      cases skip with
      | succ skip => exact (ih h).imp_right (List.mem_cons_of_mem _)
      | zero =>
          rw [replaceFrom] at h
          split at h
          next =>
            obtain hnew | hrest := List.mem_append.mp h
            · exact .inl hnew
            · exact (ih hrest).imp_right (List.mem_cons_of_mem _)
          next =>
            obtain rfl | hrest := List.mem_cons.mp h
            · exact .inr List.mem_cons_self
            · exact (ih hrest).imp_right (List.mem_cons_of_mem _)

-- The first letter stays, or it was that of the pattern and is that of the replacement.
theorem head?_replaceFrom (p r : Char) (ps rs s : List Char) :
    (replaceFrom (p :: ps) (r :: rs) 0 s).head? = s.head? ∨
      s.head? = some p ∧ (replaceFrom (p :: ps) (r :: rs) 0 s).head? = some r := by
  cases s with
  | nil => exact .inl rfl
  | cons first rest =>
      rw [replaceFrom]
      split
      next hmatch =>
        obtain ⟨more, hmore⟩ := List.isPrefixOf_iff_prefix.mp hmatch
        obtain ⟨rfl, -⟩ := List.cons_eq_cons.mp hmore
        exact .inr ⟨rfl, rfl⟩
      next => exact .inl rfl

-- A word that begins with an unmarked letter, as acronyms do.
def IsCapital (word : String) : Prop :=
  isIdentifier word = true ∧ hasMarkedInitial word = false

instance (word : String) : Decidable (IsCapital word) := inferInstanceAs (Decidable (_ ∧ _))

theorem kept_replaceAll {pattern replacement : String} (hpattern : IsCapital pattern)
    (hreplacement : IsCapital replacement) (h : isIdentifier name = true) :
    isIdentifier (replaceAll pattern replacement name) = true ∧
      hasMarkedInitial (replaceAll pattern replacement name) = hasMarkedInitial name := by
  obtain ⟨hinitial, hword⟩ := isIdentifier_iff.mp h
  obtain ⟨hr, hrword⟩ := isIdentifier_iff.mp hreplacement.1
  have hp := (isIdentifier_iff.mp hpattern.1).1
  have hpmark := hpattern.2
  have hrmark := hreplacement.2
  rw [isIdentifier_iff, hasMarkedInitial, hasMarkedInitial, replaceAll, String.toList_ofList]
  rw [hasMarkedInitial] at hpmark hrmark
  have hall : ∀ c ∈ replaceFrom pattern.toList replacement.toList 0 name.toList,
      isWordChar c = true := fun c hc => (mem_of_mem_replaceFrom hc).elim (hrword c) (hword c)
  cases hps : pattern.toList with
  | nil => simp [hps] at hp
  | cons p ps =>
      cases hrs : replacement.toList with
      | nil => simp [hrs] at hr
      | cons r rs =>
          rw [hps] at hpmark hall
          rw [hrs] at hr hrmark hall
          obtain hsame | ⟨hfirst, hnew⟩ := head?_replaceFrom p r ps rs name.toList
          · rw [hsame]
            exact ⟨⟨hinitial, hall⟩, rfl⟩
          · rw [hfirst, hnew]
            exact ⟨⟨hr, hall⟩, hrmark.trans hpmark.symm⟩

theorem kept_capitalizeAcronyms (h : isIdentifier name = true) :
    isIdentifier (capitalizeAcronyms name) = true ∧
      hasMarkedInitial (capitalizeAcronyms name) = hasMarkedInitial name := by
  have hall : ∀ entry ∈ acronyms, IsCapital entry.1 ∧ IsCapital entry.2 := by decide +kernel
  refine capitalizeAcronyms_of_replaceAll (P := fun s => isIdentifier s = true ∧
    hasMarkedInitial s = hasMarkedInitial name) ?_ ⟨h, rfl⟩
  intro entry hentry s hs
  obtain ⟨hpattern, hreplacement⟩ := hall entry hentry
  obtain ⟨hname, hinitial⟩ := kept_replaceAll hpattern hreplacement hs.1
  exact ⟨hname, hinitial.trans hs.2⟩

theorem isIdentifier_title_iff (h : isIdentifier name = true) :
    isIdentifier (title name) = true ↔ hasMarkedInitial name = false := by
  obtain ⟨hhead, hword⟩ := title_of_isIdentifier h
  rw [isIdentifier_iff, hword]
  exact and_iff_right hhead

theorem isIdentifier_exported_iff (h : isIdentifier name = true) :
    isIdentifier (exported name) = true ↔ hasMarkedInitial name = false := by
  obtain ⟨hname, hinitial⟩ := kept_capitalizeAcronyms h
  rw [exported, isIdentifier_title_iff hname, hinitial]

theorem isIdentifier_title_append_iff {after : String} (h : isIdentifier name = true)
    (hafter : ∀ c ∈ after.toList, isWordChar c = true) :
    isIdentifier (title name ++ after) = true ↔ hasMarkedInitial name = false := by
  obtain ⟨hhead, hword⟩ := title_of_isIdentifier h
  rw [isIdentifier_append_iff hhead, hword]
  exact and_iff_left hafter

theorem isIdentifier_around_title_iff {before after : String} (h : isIdentifier name = true)
    (hbefore : isIdentifier before = true) (hafter : ∀ c ∈ after.toList, isWordChar c = true) :
    isIdentifier (before ++ title name ++ after) = true ↔ hasMarkedInitial name = false := by
  obtain ⟨hinitial, hall⟩ := isIdentifier_iff.mp hbefore
  rw [String.append_assoc, isIdentifier_append_iff hinitial, String.toList_append,
    List.forall_mem_append, (title_of_isIdentifier h).2]
  exact (and_iff_right hall).trans (and_iff_left hafter)

end Name

-- The two functions and the variable that are named after a step.
theorem Assembly.isIdentifier_derived_iff {a : Assembly} {s : String}
    (h : Name.isIdentifier a.step.name = true)
    (hs : s ∈ [a.commandName, a.commandVariable, a.flagsName]) :
    Name.isIdentifier s = true ↔ Name.hasMarkedInitial a.step.name = false := by
  have hletters : ∀ after ∈ ["Command", "Cmd", "Flags"],
      after.toList.all Text.isWordChar = true := by
    decide +kernel
  have hwords := fun after hafter => List.all_eq_true.mp (hletters after hafter)
  simp only [List.mem_cons, List.not_mem_nil, or_false] at hs
  obtain rfl | rfl | rfl := hs
  · exact Name.isIdentifier_title_append_iff h (hwords "Command" (by simp))
  · exact Name.isIdentifier_around_title_iff h (by decide +kernel) (hwords "Cmd" (by simp))
  · exact Name.isIdentifier_around_title_iff h (by decide +kernel) (hwords "Flags" (by simp))

-- Whether an identifier stays one is decided by its first letter.
theorem Name.normalized_isIdentifier_iff (name : String) (step : Step)
    (exportPrefix : Option String) (a : Assembly) :
    (isIdentifier name = true →
      (isIdentifier (title name) = true ↔ hasMarkedInitial name = false) ∧
      (isIdentifier (exported name) = true ↔ hasMarkedInitial name = false)) ∧
    (step.assemble exportPrefix = .ok a →
      ∀ s ∈ [a.commandName, a.commandVariable, a.flagsName],
        isIdentifier s = true ↔ hasMarkedInitial step.name = false) := by
  constructor
  · intro h
    exact ⟨isIdentifier_title_iff h, isIdentifier_exported_iff h⟩
  · intro h s hs
    obtain ⟨rfl, hname⟩ := Step.step_of_assemble h
    exact Assembly.isIdentifier_derived_iff hname hs

-- A ligature comes apart into two letters, and two acronyms are written in capitals.
theorem Name.normalized_isIdentifier_iff_ligature :
    let step : Step := { name := "ﬁndApiId" }
    let a : Assembly := ⟨step, "", [], []⟩
    isIdentifier step.name = true ∧ step.assemble none = .ok a ∧
      (isIdentifier (title step.name) = true ↔ hasMarkedInitial step.name = false) ∧
      (isIdentifier (exported step.name) = true ↔ hasMarkedInitial step.name = false) ∧
      exported step.name = "FIndAPIID" ∧ a.commandName ∈ [a.commandName, a.commandVariable,
        a.flagsName] ∧
      (isIdentifier a.commandName = true ↔ hasMarkedInitial step.name = false) := by
  intro step a
  have hname : isIdentifier step.name = true := by decide +kernel
  have ha : step.assemble none = .ok a := by
    rw [Step.assemble_eq, if_pos hname]
    rfl
  have hmem : a.commandName ∈ [a.commandName, a.commandVariable, a.flagsName] :=
    List.mem_cons_self
  obtain ⟨hnormalized, hderived⟩ := normalized_isIdentifier_iff step.name step none a
  obtain ⟨htitle, hexported⟩ := hnormalized hname
  exact ⟨hname, ha, htitle, hexported, by decide +kernel, hmem, hderived ha a.commandName hmem⟩

-- The upper case of the letter is a capital with a mark after it.
theorem Name.marked_not_isIdentifier :
    let step : Step := { name := "\u01f0" }
    let a : Assembly := ⟨step, "", [], []⟩
    isIdentifier step.name = true ∧ step.assemble none = .ok a ∧
      title step.name = "J\u030c" ∧ exported step.name = "J\u030c" ∧
      ∀ s ∈ [title step.name, exported step.name, a.commandName, a.commandVariable, a.flagsName],
        isIdentifier s = false := by
  intro step a
  have hname : isIdentifier step.name = true := by decide +kernel
  have ha : step.assemble none = .ok a := by
    rw [Step.assemble_eq, if_pos hname]
    rfl
  exact ⟨hname, ha, by decide +kernel, by decide +kernel, by decide +kernel⟩

end StepCommand
