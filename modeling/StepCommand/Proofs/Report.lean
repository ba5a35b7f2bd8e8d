import Mathlib.Data.List.Basic
import StepCommand.Proofs.RawPath
import StepCommand.Report

namespace StepCommand

namespace Text

-- What is left between the two texts that stand at the ends.
def inner? (opening closing : String) (s : List Char) : Option (List Char) :=
  (s.dropPrefix? opening.toList).bind fun rest => rest.dropSuffix? closing.toList

def number? (digits : List Char) : Option Nat :=
  if digits ≠ [] ∧ digits.all Char.isDigit = true then some (Nat.ofDigitChars 10 digits 0) else none

end Text

open Text (inner? number?)

def Outcome.ofLine? (line : List Char) : Option (Outcome RawPath) :=
  [Status.written, .kept].findSome? fun status =>
    (inner? "- `" ("` (" ++ status.text ++ ")") line).map fun path =>
      ⟨.ofText (String.ofList path), status⟩

namespace Report

-- What a text says: the numbers in its headings, and what is listed under them.
structure Reading where
  stepCount : Nat
  writtenCount : Nat
  keptCount : Nat
  steps : List String
  outcomes : List (Outcome RawPath)
deriving DecidableEq

def stepOfLine? (line : List Char) : Option String := (inner? "- " "" line).map String.ofList

def stepCount? (line : List Char) : Option Nat := (inner? "# Generated " " step(s)" line).bind number?

def counts? (line : List Char) : Option (Nat × Nat) :=
  match (inner? "## Files (" " kept)" line).map (List.splitOn ',') with
  | some [first, second] => do
      let written ← (inner? "" " written" first).bind number?
      let kept ← (inner? " " "" second).bind number?
      return (written, kept)
  | _ => none

-- The lines of a text come in paragraphs, with an empty line between each two of them.
def paragraphsOf (text : String) : List (List (List Char)) :=
  (text.toList.splitOn '\n').splitOn []

def read? (text : String) : Option Reading :=
  match paragraphsOf text with
  | [[heading], steps, [files], outcomes, []] => do
      let stepCount ← stepCount? heading
      let counts ← counts? files
      let steps ← steps.mapM stepOfLine?
      let outcomes ← outcomes.mapM Outcome.ofLine?
      return ⟨stepCount, counts.1, counts.2, steps, outcomes⟩
  | _ => none

end Report

namespace Text

variable {opening closing : String} {s : List Char}

theorem inner?_toList (opening s closing : String) :
    inner? opening closing (opening ++ (s ++ closing)).toList = some s.toList := by
  have hprefix : (opening.toList ++ (s.toList ++ closing.toList)).dropPrefix? opening.toList =
      some (s.toList ++ closing.toList) := List.dropPrefix?_append_of_beq _ BEq.rfl
  rw [inner?, String.toList_append, String.toList_append, hprefix, Option.bind_some,
    List.dropSuffix?_eq_some_iff]
  exact ⟨closing.toList, rfl, BEq.rfl⟩

theorem eq_append_of_inner? {t : List Char} (h : inner? opening closing s = some t) :
    s = opening.toList ++ (t ++ closing.toList) := by
  obtain ⟨rest, hrest, ht⟩ := Option.bind_eq_some_iff.mp h
  obtain ⟨first, rfl, hfirst⟩ := List.dropPrefix?_eq_some_iff.mp hrest
  obtain ⟨last, rfl, hlast⟩ := List.dropSuffix?_eq_some_iff.mp ht
  rw [eq_of_beq hfirst, eq_of_beq hlast]

theorem number?_toString (n : Nat) : number? (toString n).toList = some n := by
  rw [Nat.toString_eq_ofList_toDigits, String.toList_ofList, number?, if_pos]
  · rw [Nat.ofDigitChars_ten_toDigits]
  · refine ⟨Nat.toDigits_ne_nil, List.all_eq_true.mpr fun c hc => ?_⟩
    exact Nat.isDigit_of_mem_toDigits (by decide) (by decide) hc

theorem notMem_toDigits {c : Char} (h : c.isDigit = false) (n : Nat) : c ∉ Nat.toDigits 10 n := by
  intro hc
  rw [Nat.isDigit_of_mem_toDigits (by decide) (by decide) hc] at h
  cases h

end Text

-- A line without its line feed.
def Outcome.shown (o : Outcome RawPath) : String :=
  "- `" ++ (o.path.text ++ ("` (" ++ o.status.text ++ ")"))

-- A path may end in what looks like a status, but only the last one counts.
theorem Outcome.ofLine?_shown (path : String) (status : Status) :
    ofLine? (shown ⟨.ofText path, status⟩).toList = some ⟨.ofText path, status⟩ := by
  have hown : inner? "- `" ("` (" ++ status.text ++ ")") (shown ⟨.ofText path, status⟩).toList =
      some path.toList := by
    rw [shown, RawPath.text_ofText, Text.inner?_toList]
  cases status with
  | written => simp [ofLine?, hown]
  | kept =>
      have hother : inner? "- `" ("` (" ++ Status.written.text ++ ")")
          (shown ⟨.ofText path, .kept⟩).toList = none := by
        by_contra hne
        obtain ⟨longer, hlonger⟩ := Option.ne_none_iff_exists'.mp hne
        have hends := Text.eq_append_of_inner? hlonger
        rw [shown, String.toList_append, List.append_cancel_left_eq] at hends
        have hback := congrArg List.reverse hends
        simp [Status.text] at hback
      simp [ofLine?, hown, hother]

namespace Report

variable {r : Report RawPath}

def shownStep (name : String) : String := "- " ++ name

def shownHeading (r : Report RawPath) : String :=
  "# Generated " ++ (toString r.steps.length ++ " step(s)")

def shownCounts (r : Report RawPath) : String :=
  "## Files (" ++ ((toString r.written.length ++ " written" ++ ("," ++ (" " ++
    toString r.kept.length))) ++ " kept)")

theorem stepOfLine?_shownStep (name : String) :
    stepOfLine? (shownStep name).toList = some name := by
  have hinner := Text.inner?_toList "- " name ""
  rw [String.append_empty] at hinner
  rw [stepOfLine?, shownStep, hinner, Option.map_some, String.ofList_toList]

theorem stepCount?_shownHeading (r : Report RawPath) :
    stepCount? r.shownHeading.toList = some r.steps.length := by
  rw [stepCount?, shownHeading, Text.inner?_toList, Option.bind_some, Text.number?_toString]

theorem counts?_shownCounts (r : Report RawPath) :
    counts? r.shownCounts.toList = some (r.written.length, r.kept.length) := by
  have hwritten := Text.inner?_toList "" (toString r.written.length) " written"
  have hkept := Text.inner?_toList " " (toString r.kept.length) ""
  rw [String.empty_append] at hwritten
  rw [String.append_empty] at hkept
  have hfirst : ',' ∉ (toString r.written.length ++ " written").toList := by
    simp [Text.notMem_toDigits]
  have hsecond : ',' ∉ (" " ++ toString r.kept.length).toList := by
    simp [Text.notMem_toDigits]
  have hsplit : (toString r.written.length ++ " written" ++ ("," ++ (" " ++
      toString r.kept.length))).toList.splitOn ',' =
        [(toString r.written.length ++ " written").toList, (" " ++ toString r.kept.length).toList] := by
    have hcomma : ",".toList = [','] := by decide +kernel
    rw [String.toList_append, String.toList_append (s := ","), hcomma, List.singleton_append,
      List.splitOn_append_cons_self_of_not_mem hfirst, List.splitOn_eq_singleton hsecond]
  rw [counts?, shownCounts, Text.inner?_toList, Option.map_some, hsplit]
  simp only [hwritten, hkept, Option.bind_some, Text.number?_toString]
  rfl

-- Reports that tell each line from the others: there are steps, names and paths have no line feeds,
-- and paths are texts.
structure IsLegible (r : Report RawPath) : Prop where
  steps_ne_nil : r.steps ≠ []
  steps : ∀ name ∈ r.steps, '\n' ∉ name.toList
  paths : ∀ o ∈ r.outcomes, ∃ path, o.path = .ofText path ∧ '\n' ∉ path.toList

def paragraphs (r : Report RawPath) : List (List (List Char)) := [
  [r.shownHeading.toList],
  r.steps.map fun name => (shownStep name).toList,
  [r.shownCounts.toList],
  r.outcomes.map fun o => o.shown.toList,
  []]

theorem intercalate_append_singleton (lines : List (List Char)) (last : List Char) :
    ['\n'].intercalate (lines ++ [last]) = lines.flatMap (· ++ ['\n']) ++ last := by
  induction lines with
  | nil => simp
  | cons line rest ih =>
      obtain ⟨next, more, hmore⟩ := List.exists_cons_of_ne_nil (List.append_ne_nil_of_right_ne_nil
        rest (List.cons_ne_nil last []))
      rw [List.cons_append, hmore, List.intercalate_cons_cons, ← hmore, ih]
      simp

theorem intercalate_paragraphs (r : Report RawPath) :
    [[]].intercalate r.paragraphs =
      (r.shownHeading.toList :: [] :: (r.steps.map (fun name => (shownStep name).toList) ++
        [] :: r.shownCounts.toList :: [] :: r.outcomes.map fun o => o.shown.toList)) ++ [[]] := by
  simp [paragraphs, List.intercalate_cons_cons]

theorem toList_text (h : r.steps ≠ []) :
    r.text.toList = ['\n'].intercalate ([[]].intercalate r.paragraphs) := by
  rw [intercalate_paragraphs, intercalate_append_singleton, text, if_neg h]
  simp [heading, filesHeading, shownHeading, shownCounts, shownStep, stepLine, Outcome.line,
    Outcome.shown, Shown.shown, List.flatMap_map, String.toList_join]

theorem newline_notMem (h : r.IsLegible) :
    ∀ line ∈ [[]].intercalate r.paragraphs, '\n' ∉ line := by
  have hheading : '\n' ∉ r.shownHeading.toList := by
    simp [shownHeading, Text.notMem_toDigits]
  have hcounts : '\n' ∉ r.shownCounts.toList := by
    simp [shownCounts, Text.notMem_toDigits]
  have hstep : ∀ name ∈ r.steps, '\n' ∉ (shownStep name).toList := by
    intro name hname
    simp [shownStep, h.steps name hname]
  have houtcome : ∀ o ∈ r.outcomes, '\n' ∉ o.shown.toList := by
    intro o ho
    obtain ⟨path, hpath, hnewline⟩ := h.paths o ho
    cases hstatus : o.status <;>
      simp [Outcome.shown, Status.text, hstatus, hpath, RawPath.text_ofText, hnewline]
  rw [intercalate_paragraphs]
  simpa [or_imp, forall_and, hheading, hcounts] using ⟨hstep, houtcome⟩

-- Lines that hold names and paths begin with a dash, so that an empty line can end a paragraph.
theorem nil_notMem (r : Report RawPath) : ∀ paragraph ∈ r.paragraphs, [] ∉ paragraph := by
  simp [paragraphs, shownHeading, shownStep, shownCounts, Outcome.shown]

theorem paragraphsOf_text (h : r.IsLegible) : paragraphsOf r.text = r.paragraphs := by
  have hlines : [[]].intercalate r.paragraphs ≠ [] := by simp [intercalate_paragraphs]
  rw [paragraphsOf, toList_text h.steps_ne_nil,
    List.splitOn_intercalate '\n' (newline_notMem h) hlines,
    List.splitOn_intercalate [] (nil_notMem r) (List.cons_ne_nil _ _)]

theorem mapM_map {α β : Type} {f : β → Option α} {g : α → β} {xs : List α}
    (h : ∀ x ∈ xs, f (g x) = some x) : (xs.map g).mapM f = some xs := by
  induction xs with
  | nil => rfl
  | cons x rest ih =>
      have hrest := ih fun y hy => h y (List.mem_cons_of_mem _ hy)
      simp [h x List.mem_cons_self, hrest]

-- What the report of a run says.
def reading (r : Report RawPath) : Reading :=
  ⟨r.steps.length, r.written.length, r.kept.length, r.steps, r.outcomes⟩

theorem read?_text (h : r.IsLegible) : read? r.text = some r.reading := by
  have hsteps := mapM_map fun name (_ : name ∈ r.steps) => stepOfLine?_shownStep name
  have houtcomes : (r.outcomes.map fun o => o.shown.toList).mapM Outcome.ofLine? =
      some r.outcomes := by
    refine mapM_map fun o ho => ?_
    obtain ⟨path, hpath, -⟩ := h.paths o ho
    obtain ⟨_, status⟩ := o
    cases hpath
    exact Outcome.ofLine?_shown path status
  rw [read?, paragraphsOf_text h, paragraphs]
  simp only [stepCount?_shownHeading, counts?_shownCounts, hsteps, houtcomes]
  rfl

-- A file is written or kept.
theorem length_written_add_kept (r : Report RawPath) :
    r.written.length + r.kept.length = r.outcomes.length := by
  have hkept : r.kept = r.outcomes.filter fun o => !decide (o.status = .written) := by
    refine List.filter_congr fun o _ => ?_
    cases o.status <;> rfl
  rw [hkept, written, withStatus, ← List.length_append]
  exact (List.filter_append_perm _ _).length_eq

-- The text of a report is read in one way only, and the numbers in it are right.
theorem text_determines (h : r.IsLegible) :
    read? r.text = some ⟨r.steps.length, r.written.length, r.kept.length, r.steps, r.outcomes⟩ ∧
      r.written.length + r.kept.length = r.outcomes.length ∧
      ∀ other : Report RawPath, other.IsLegible → other.text = r.text → other = r := by
  refine ⟨read?_text h, r.length_written_add_kept, fun other hother htext => ?_⟩
  have hread : other.reading = r.reading := by
    rw [← Option.some.injEq, ← read?_text hother, htext, read?_text h]
  obtain ⟨steps, outcomes⟩ := other
  obtain rfl : steps = r.steps := congrArg Reading.steps hread
  obtain rfl : outcomes = r.outcomes := congrArg Reading.outcomes hread
  rfl

-- Names and paths that look like the lines of a report, and an empty name.
theorem text_determines_alike :
    let r : Report RawPath := {
      steps := ["", "## Files (0 written, 0 kept)", "`out/a.go` (kept)"]
      outcomes := [⟨.ofText "out/a.go` (kept)", .written⟩, ⟨.ofText "", .kept⟩,
        ⟨.ofText "- `b` (written)", .kept⟩] }
    r.IsLegible ∧ read? r.text = some ⟨3, 1, 2, r.steps, r.outcomes⟩ ∧
      ∀ other : Report RawPath, other.IsLegible → other.text = r.text → other = r := by
  intro r
  have hpaths : ∀ o ∈ r.outcomes, ∃ path, o.path = .ofText path ∧ '\n' ∉ path.toList := by
    simp only [r, List.forall_mem_cons]
    exact ⟨⟨_, rfl, by decide⟩, ⟨_, rfl, by decide⟩, ⟨_, rfl, by decide⟩, by simp⟩
  have hlegible : r.IsLegible := ⟨by decide, by decide +kernel, hpaths⟩
  obtain ⟨hread, -, hunique⟩ := text_determines hlegible
  exact ⟨hlegible, hread, hunique⟩

-- Paths that are no texts may be shown alike.
theorem text_eq_of_ne :
    let first : Report RawPath := { steps := ["a"], outcomes := [⟨⟨[0xFF]⟩, .written⟩] }
    let second : Report RawPath := { steps := ["a"], outcomes := [⟨⟨[0xFE]⟩, .written⟩] }
    (first.steps ≠ [] ∧ second.steps ≠ []) ∧
      (∀ name ∈ first.steps ++ second.steps, '\n' ∉ name.toList) ∧
      (∀ o ∈ first.outcomes ++ second.outcomes, 0x0A ∉ o.path.bytes) ∧
      first ≠ second ∧ first.text = second.text := by
  decide +kernel

-- The same report, with its paths as the system has them.
def raw (r : Report) : Report RawPath :=
  ⟨r.steps, r.outcomes.map fun o => ⟨.ofText o.path, o.status⟩⟩

theorem withStatus_raw (r : Report) (status : Status) :
    (r.raw.withStatus status).length = (r.withStatus status).length := by
  simp [raw, withStatus, List.filter_map, Function.comp_def]

theorem lines_raw (r : Report) : r.raw.outcomes.map Outcome.line = r.outcomes.map Outcome.line := by
  rw [raw, List.map_map]
  refine List.map_congr_left fun o _ => ?_
  simp only [Function.comp_apply, Outcome.line, Shown.shown, RawPath.text_ofText, id_eq]

theorem text_raw (r : Report) : r.raw.text = r.text := by
  have hfiles : r.raw.filesHeading = r.filesHeading := by
    simp only [filesHeading, written, kept, withStatus_raw]
  unfold text
  rw [hfiles, lines_raw]
  rfl

end Report

end StepCommand
