import Mathlib.Data.List.Basic
import StepCommand.Name

namespace StepCommand

namespace Text

variable {c : Char}

-- May a name begin with the character?
def isInitial (c : Char) : Bool := isAlphabetic c || c == '_'

theorem isWordChar_of_isInitial (h : isInitial c = true) : isWordChar c = true := by
  rw [isInitial, Bool.or_eq_true] at h
  rw [isWordChar, isAlphanumeric, Bool.or_eq_true, Bool.or_eq_true]
  exact h.imp_left .inl

-- An upper case that is no expansion is that of a run of letters.
theorem exists_run_of_upper? {n code : Nat} (h : caseRuns.findSome? (·.upper? n) = some code) :
    ∃ run ∈ caseRuns, (run.first ≤ n ∧ n ≤ run.last ∧ (n - run.first) % run.stride = 0) ∧
      (n + run.shift).toNat = code := by
  obtain ⟨run, hrun, hupper⟩ := List.exists_of_findSome?_eq_some h
  rw [CaseRun.upper?, Option.ite_none_right_eq_some, Option.some.injEq] at hupper
  exact ⟨run, hrun, hupper⟩

end Text

namespace Name

open Text (isInitial isWordChar isWordChar_of_isInitial replaceAll replaceFrom upper)

variable {c : Char} {p : Char} {ps replacement s : List Char} {name : String}

theorem mem_replaceFrom {skip : Nat} (h : c ∉ p :: ps) (hs : c ∈ s.drop skip) :
    c ∈ replaceFrom (p :: ps) replacement skip s := by
  induction s generalizing skip with
  | nil => simp at hs
  | cons first rest ih =>
      cases skip with
      | succ skip => exact ih hs
      | zero =>
          rw [replaceFrom]
          split
          next hmatch =>
            obtain ⟨more, hmore⟩ := List.isPrefixOf_iff_prefix.mp hmatch
            obtain ⟨rfl, rfl⟩ := List.cons_eq_cons.mp hmore
            have hmem : c ∈ more := by
              rw [List.drop_zero, ← hmore, List.mem_append] at hs
              exact hs.resolve_left h
            exact List.mem_append_right _ (ih (by simpa using hmem))
          next =>
            obtain rfl | hrest := List.mem_cons.mp hs
            · exact List.mem_cons_self
            · exact List.mem_cons_of_mem _ (ih hrest)

theorem mem_replaceAll {pattern replacement s : String} (hpattern : pattern ≠ "")
    (h : c ∉ pattern.toList) (hs : c ∈ s.toList) :
    c ∈ (replaceAll pattern replacement s).toList := by
  rw [replaceAll, String.toList_ofList]
  cases hp : pattern.toList with
  | nil => exact absurd (String.toList_eq_nil_iff.mp hp) hpattern
  | cons p ps => exact mem_replaceFrom (hp ▸ h) hs

-- What each replacement keeps holds in the end.
theorem capitalizeAcronyms_of_replaceAll {P : String → Prop}
    (hkeeps : ∀ entry ∈ acronyms, ∀ s, P s → P (replaceAll entry.1 entry.2 s)) (h : P name) :
    P (capitalizeAcronyms name) :=
  List.foldlRecOn acronyms _ h fun s hs entry hentry => hkeeps entry hentry s hs

theorem mem_capitalizeAcronyms (h : ∀ entry ∈ acronyms, c ∉ entry.1.toList)
    (hs : c ∈ name.toList) : c ∈ (capitalizeAcronyms name).toList := by
  have hnonempty : ∀ entry ∈ acronyms, entry.1 ≠ "" := by decide
  refine capitalizeAcronyms_of_replaceAll (P := fun s => c ∈ s.toList) ?_ hs
  intro entry hentry s hmem
  exact mem_replaceAll (hnonempty entry hentry) (h entry hentry) hmem

theorem mem_titleFrom {start : Bool} (h : upper c = [c]) (hs : c ∈ s) : c ∈ titleFrom start s := by
  induction s generalizing start with
  | nil => exact absurd hs List.not_mem_nil
  | cons first rest ih =>
      rw [titleFrom, List.mem_append]
      obtain rfl | hrest := List.mem_cons.mp hs
      · cases start <;> simp [h]
      · exact .inr (ih hrest)

-- What is neither part of an acronym nor in lower case stays in the name.
theorem mem_exported (hacronyms : ∀ entry ∈ acronyms, c ∉ entry.1.toList) (hupper : upper c = [c])
    (h : c ∈ name.toList) : c ∈ (exported name).toList := by
  rw [exported, title, String.toList_ofList]
  exact mem_titleFrom hupper (mem_capitalizeAcronyms hacronyms h)

theorem isIdentifier_iff :
    isIdentifier name = true ↔
      name.toList.head?.any isInitial = true ∧ ∀ c ∈ name.toList, isWordChar c = true := by
  rw [isIdentifier]
  cases name.toList with
  | nil => simp
  | cons first rest =>
      simp only [Bool.and_eq_true, List.all_eq_true, List.head?_cons, Option.any_some,
        List.forall_mem_cons]
      constructor
      · intro h
        exact ⟨h.1, isWordChar_of_isInitial h.1, h.2⟩
      · intro h
        exact ⟨h.1, h.2.2⟩

theorem isWordChar_of_isIdentifier (h : isIdentifier name = true) (hc : c ∈ name.toList) :
    isWordChar c = true :=
  (isIdentifier_iff.mp h).2 c hc

end Name

end StepCommand
