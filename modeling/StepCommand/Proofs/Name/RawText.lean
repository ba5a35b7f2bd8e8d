import StepCommand.Name
import StepCommand.Proofs.Literal.Joined

namespace StepCommand

namespace Text

variable {s : List Char} {f : Char → List Char} {c : Char}

theorem replaceFrom_singleton (sign : Char) (replacement s : List Char) :
    replaceFrom [sign] replacement 0 s =
      s.flatMap fun c => if c = sign then replacement else [c] := by
  induction s with
  | nil => rfl
  | cons c rest ih =>
      rw [replaceFrom, List.flatMap_cons, ← ih]
      by_cases hc : c = sign
      · simp [hc]
      · simp [hc, Ne.symm hc]

-- What is written for other characters does not begin with a blank.
theorem trimStart_flatMap (hblank : ∀ c, isBlank c = true → f c = [c])
    (hother : ∀ c, isBlank c = false → (f c).head?.any (fun d => !isBlank d) = true) :
    trimStart (s.flatMap f) = (trimStart s).flatMap f := by
  unfold trimStart
  induction s with
  | nil => rfl
  | cons c rest ih =>
      rw [List.flatMap_cons]
      cases hc : isBlank c with
      | true =>
          rw [hblank c hc, List.singleton_append, List.dropWhile_cons_of_pos hc,
            List.dropWhile_cons_of_pos hc, ih]
      | false =>
          have hne : ¬ isBlank c = true := by simp [hc]
          have hhead := hother c hc
          rw [List.dropWhile_cons_of_neg hne, List.flatMap_cons]
          cases hf : f c with
          | nil => simp [hf] at hhead
          | cons d more =>
              have hd : ¬ isBlank d = true := by simpa [hf] using hhead
              rw [List.cons_append, List.dropWhile_cons_of_neg hd]

theorem trim_flatMap (hblank : ∀ c, isBlank c = true → f c = [c])
    (hhead : ∀ c, isBlank c = false → (f c).head?.any (fun d => !isBlank d) = true)
    (hlast : ∀ c, isBlank c = false → (f c).getLast?.any (fun d => !isBlank d) = true) :
    trim (s.flatMap f) = (trim s).flatMap f := by
  have hback : ∀ t, trimStart (t.flatMap fun c => (f c).reverse) =
      (trimStart t).flatMap fun c => (f c).reverse := by
    intro t
    refine trimStart_flatMap (fun c hc => ?_) (fun c hc => ?_)
    · rw [hblank c hc, List.reverse_singleton]
    · rw [List.head?_reverse]
      exact hlast c hc
  rw [trim, trim, trimEnd, trimEnd, trimStart_flatMap hblank hhead, List.reverse_flatMap]
  simp only [Function.comp_def]
  rw [hback, List.reverse_flatMap]
  simp [Function.comp_def]

theorem mem_of_mem_trim (h : c ∈ trim s) : c ∈ s := by
  have hstart : ∀ t, c ∈ trimStart t → c ∈ t := fun t ht => (List.dropWhile_suffix _).subset ht
  rw [trim, trimEnd, List.mem_reverse] at h
  exact hstart s (List.mem_reverse.mp (hstart _ h))

end Text

namespace Name

open Literal (escape operands? rawString rawValue rawValue_eq_self_iff valueOf)
open Text (replaceAll trim)

theorem replaceAll_backquote (s : String) :
    replaceAll "`" "` + \"`\" + `" s =
      String.ofList (s.toList.flatMap fun c => if c = '\x60' then escape else [c]) := by
  have hsign : "`".toList = ['\x60'] := by decide
  have hescape : "` + \"`\" + `".toList = escape := by decide
  rw [replaceAll, hsign, hescape, Text.replaceFrom_singleton]

-- Backquotes are no blanks, and what is written for them neither begins nor ends with one.
theorem rawText_eq (s : String) :
    rawText s = replaceAll "`" "` + \"`\" + `" (String.ofList (trim s.toList)) := by
  have hblank : ∀ c, Text.isBlank c = true → (if c = '\x60' then escape else [c]) = [c] := by
    intro c hc
    refine if_neg fun heq => ?_
    subst heq
    revert hc
    decide
  have hends : ∀ c, Text.isBlank c = false →
      (if c = '\x60' then escape else [c]).head?.any (fun d => !Text.isBlank d) = true ∧
        (if c = '\x60' then escape else [c]).getLast?.any (fun d => !Text.isBlank d) = true := by
    intro c hc
    split
    · decide
    · simp [hc]
  rw [rawText, replaceAll_backquote, replaceAll_backquote, String.toList_ofList,
    Text.trim_flatMap hblank (fun c hc => (hends c hc).1) (fun c hc => (hends c hc).2),
    String.toList_ofList]

-- The expression is a row of strings, and carriage returns are all that it may lose.
theorem operands?_rawText (s : String) :
    rawText s = replaceAll "`" "` + \"`\" + `" (String.ofList (trim s.toList)) ∧
      ∃ operands, operands? (rawString (rawText s)) = some operands ∧
        valueOf operands = rawValue (String.ofList (trim s.toList)) ∧
        ('\r' ∉ s.toList → valueOf operands = String.ofList (trim s.toList)) := by
  obtain ⟨operands, hread, hvalue⟩ := Literal.operands?_escape (trim s.toList)
  refine ⟨rawText_eq s, operands, ?_, hvalue, fun h => ?_⟩
  · rw [rawText_eq, replaceAll_backquote, String.toList_ofList, hread]
  · rw [hvalue, rawValue_eq_self_iff, String.toList_ofList]
    exact fun hmem => h (Text.mem_of_mem_trim hmem)

-- Backquotes next to a blank and at the end, and what is written for one.
theorem operands?_rawText_backquotes :
    let s := " ``mvn` + \"`\" + `\n"
    '\r' ∉ s.toList ∧ ∃ operands, operands? (rawString (rawText s)) = some operands ∧
      valueOf operands = "``mvn` + \"`\" + `" := by
  intro s
  have hreturns : '\r' ∉ s.toList := by decide +kernel
  obtain ⟨-, operands, hread, -, hvalue⟩ := operands?_rawText s
  have htrimmed : String.ofList (trim s.toList) = "``mvn` + \"`\" + `" := by decide +kernel
  exact ⟨hreturns, operands, hread, (hvalue hreturns).trans htrimmed⟩

end Name

end StepCommand
