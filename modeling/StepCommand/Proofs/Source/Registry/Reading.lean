import StepCommand.Proofs.Name
import StepCommand.Proofs.Report
import StepCommand.Proofs.Source.Registry
import StepCommand.Proofs.Template.Spelled

namespace StepCommand

-- What follows the last line feed is empty.
theorem Text.splitOn_eq_iff {text : String} {lines : List String}
    (h : ∀ line ∈ lines, '\n' ∉ line.toList) :
    text.toList.splitOn '\n' = lines.map String.toList ++ [[]] ↔ text = ofLines lines := by
  have hjoined : ['\n'].intercalate (lines.map String.toList ++ [[]]) = (ofLines lines).toList := by
    rw [Report.intercalate_append_singleton, toList_ofLines, List.flatMap_map, List.append_nil]
  constructor
  · intro hsplit
    have htext : ['\n'].intercalate (text.toList.splitOn '\n') = text.toList :=
      List.intercalate_splitOn '\n'
    rw [hsplit, hjoined] at htext
    exact (String.toList_inj.mp htext).symm
  · rintro rfl
    have hnone : ∀ line ∈ lines.map String.toList ++ [[]], '\n' ∉ line := by
      simpa [or_imp, forall_and] using h
    rw [← hjoined, List.splitOn_intercalate '\n' hnone (by simp)]

namespace Source.Registry

open Name (isIdentifier isWordChar_of_isIdentifier)
open Text (inner? ofLines toList_ofLines)
open Template

variable {name text : String} {line : List Char} {steps : List String}

def opening : List String := [
  "// Code generated by stepgen. DO NOT EDIT.",
  "",
  "package cmd",
  "",
  "import \"github.com/SAP/jenkins-library/pkg/config\"",
  "",
  "// GetAllStepMetadata return a map with all the step metadata mapped to their stepName",
  "func GetAllStepMetadata() map[string]config.StepData \x7b",
  "\treturn map[string]config.StepData\x7b"]

def entryLine (name : String) : String := "\t\t\"" ++ name ++ "\": " ++ name ++ "Metadata(),"

def closing : List String := ["\t\x7d", "\x7d"]

def lines (steps : List String) : List String := opening ++ steps.map entryLine ++ closing

theorem text_eq_ofLines (steps : List String) : Registry.text steps = ofLines (lines steps) := by
  have hopening : String.join head = ofLines opening := by decide +kernel
  have hclosing : String.join rest = ofLines closing := by decide +kernel
  have hentries : String.join (steps.map entryText) = ofLines (steps.map entryLine) := by
    rw [ofLines, List.map_map]
    refine congrArg String.join (List.map_congr_left fun name _ => ?_)
    simp [entryText, entryLine, String.append_assoc]
  rw [Registry.text, hopening, hclosing, hentries]
  simp [ofLines, lines]

-- The two tags that enclose the entry stand on lines of their own.
def written : List String :=
  opening ++ [
    "\x7b\x7b#each steps\x7d\x7d",
    "\t\t\"\x7b\x7bthis\x7d\x7d\": \x7b\x7bthis\x7d\x7dMetadata(),",
    "\x7b\x7b/each\x7d\x7d"] ++ closing

-- Nothing is left of the two lines with the tags but where they are.
set_option maxRecDepth 20000 in
theorem spelling?_template : spelling? template = some (ofLines written).toList := by
  simp (disch := rfl) only [
    written, opening, closing, template, forEach, item, block, line, spelling?, spellAll?,
    Node.spell?, toList_ofLines, toList_tabs, toList_eq_spelt, String.toList_append,
    String.toList_join, List.flatMap_append, List.flatMap_cons, List.flatMap_nil]
  cbv

-- The name of a step stands twice in its entry.
def nameOfLine? (line : List Char) : Option String :=
  match (inner? "\t\t\"" "Metadata()," line).map (List.splitOn '"') with
  | some [name, value] =>
      if value = ": ".toList ++ name ∧ isIdentifier (String.ofList name) = true then
        some (String.ofList name)
      else none
  | _ => none

-- The entries are the lines between the opening and the closing ones, each of which ends.
def read? (text : String) : Option (List String) := do
  let rest ← (text.toList.splitOn '\n').dropPrefix? (opening.map String.toList)
  let entries ← rest.dropSuffix? (closing.map String.toList ++ [[]])
  entries.mapM nameOfLine?

theorem quote_notMem (h : isIdentifier name = true) : '"' ∉ name.toList := by
  have hquote : Text.isWordChar '"' = false := by decide_cbv
  intro hmem
  rw [isWordChar_of_isIdentifier h hmem] at hquote
  cases hquote

theorem nameOfLine?_eq_some_iff :
    nameOfLine? line = some name ↔ line = (entryLine name).toList ∧ isIdentifier name = true := by
  have hcolon : "\": ".toList = '"' :: ": ".toList := by decide_cbv
  have hsplit : ∀ name : String, entryLine name =
      "\t\t\"" ++ ((name ++ ("\": " ++ name)) ++ "Metadata(),") := by
    intro name
    simp [entryLine, String.append_assoc]
  constructor
  · intro h
    unfold nameOfLine? at h
    split at h
    next name' value hinner =>
      obtain ⟨both, hboth, hsplitOn⟩ := Option.map_eq_some_iff.mp hinner
      obtain ⟨⟨rfl, hname⟩, hsome⟩ := Option.ite_none_right_eq_some.mp h
      obtain rfl := Option.some.inj hsome
      have hjoined : ['"'].intercalate (both.splitOn '"') = both := List.intercalate_splitOn '"'
      rw [hsplitOn] at hjoined
      refine ⟨?_, hname⟩
      rw [Text.eq_append_of_inner? hboth, ← hjoined, hsplit]
      simp [hcolon]
    next => cases h
  · rintro ⟨rfl, hname⟩
    have hvalue : '"' ∉ ": ".toList ++ name.toList := by
      simp [quote_notMem hname]
    have hboth : (name ++ ("\": " ++ name)).toList.splitOn '"' =
        [name.toList, ": ".toList ++ name.toList] := by
      rw [String.toList_append, String.toList_append, hcolon, List.cons_append,
        List.splitOn_append_cons_self_of_not_mem (quote_notMem hname),
        List.splitOn_eq_singleton hvalue]
    rw [nameOfLine?, hsplit, Text.inner?_toList, Option.map_some, hboth]
    simp [hname]

theorem mapM_nameOfLine?_eq_some_iff {entries : List (List Char)} :
    entries.mapM nameOfLine? = some steps ↔
      entries = steps.map (fun name => (entryLine name).toList) ∧
        ∀ name ∈ steps, isIdentifier name = true := by
  induction entries generalizing steps with
  | nil =>
      cases steps <;> simp
  | cons line rest ih =>
      cases steps with
      | nil => simp [Option.bind_eq_some_iff]
      | cons name names =>
          simp only [List.mapM_cons, Option.bind_eq_bind, Option.bind_eq_some_iff,
            nameOfLine?_eq_some_iff, ih, Option.pure_def, Option.some.injEq, List.cons.injEq,
            List.map_cons, List.forall_mem_cons]
          constructor
          · rintro ⟨_, ⟨hline, hname⟩, _, ⟨hrest, hnames⟩, rfl, rfl⟩
            exact ⟨⟨hline, hrest⟩, hname, hnames⟩
          · rintro ⟨⟨hline, hrest⟩, hname, hnames⟩
            exact ⟨name, ⟨hline, hname⟩, names, ⟨hrest, hnames⟩, rfl, rfl⟩

theorem newline_notMem (h : ∀ name ∈ steps, isIdentifier name = true) :
    ∀ line ∈ lines steps, '\n' ∉ line.toList := by
  have hfixed : ∀ line ∈ opening ++ closing, '\n' ∉ line.toList := by decide_cbv
  have hnewline : Text.isWordChar '\n' = false := by decide_cbv
  have hentry : ∀ name ∈ steps, '\n' ∉ (entryLine name).toList := by
    intro name hname
    have hnone : '\n' ∉ name.toList := by
      intro hmem
      rw [isWordChar_of_isIdentifier (h name hname) hmem] at hnewline
      cases hnewline
    simp [entryLine, hnone]
  intro line hline
  simp only [lines, List.mem_append, List.mem_map] at hline
  obtain (hopening | ⟨name, hname, rfl⟩) | hclosing := hline
  · exact hfixed line (List.mem_append_left _ hopening)
  · exact hentry name hname
  · exact hfixed line (List.mem_append_right _ hclosing)

-- What is read is what is written for identifiers, and nothing else.
theorem read?_eq_some_iff :
    read? text = some steps ↔
      text = ofLines (lines steps) ∧ ∀ name ∈ steps, isIdentifier name = true := by
  rw [read?]
  simp only [Option.bind_eq_bind, Option.bind_eq_some_iff, List.dropPrefix?_eq_some_iff,
    List.dropSuffix?_eq_some_iff, beq_iff_eq, mapM_nameOfLine?_eq_some_iff]
  constructor
  · rintro ⟨rest, ⟨_, hopening, rfl⟩, entries, ⟨_, rfl, rfl⟩, rfl, hnames⟩
    refine ⟨(Text.splitOn_eq_iff (newline_notMem hnames)).mp ?_, hnames⟩
    rw [hopening]
    simp [lines, Function.comp_def]
  · rintro ⟨rfl, hnames⟩
    refine ⟨_, ⟨_, ?_, rfl⟩, _, ⟨_, rfl, rfl⟩, rfl, hnames⟩
    rw [(Text.splitOn_eq_iff (newline_notMem hnames)).mpr rfl]
    simp [lines, Function.comp_def]

end Source.Registry

end StepCommand
