import StepCommand.Proofs.Template.Tag
import StepCommand.Proofs.Text.Line

namespace StepCommand.Template

open Text (ofLines toList_ofLines ofLines_append)

variable {before after text : List Char} {own : Bool} {label : Label}

-- A line at whose start a tag has its line for itself, and one on which it has not.
def isStart (before : List Char) : Bool := before.isEmpty || startsAtBreak before

def isInked (before : List Char) : Bool :=
  !(before.dropWhile isLineSpace).isEmpty && !startsAtBreak (before.dropWhile isLineSpace)

-- Text in which no tag begins, whatever tag follows.
def isTextOnly : List Char → Bool
  | [] => true
  | [c] => c != '\x7b' && c != '\\'
  | c :: d :: rest => !(c == '\x7b' && d == '\x7b') && isTextOnly (d :: rest)

def lineEnd (own : Bool) : List Char := if own then ['\n'] else []

@[simp] theorem lineEnd_false : lineEnd false = [] := rfl

@[simp] theorem lineEnd_true : lineEnd true = ['\n'] := rfl

def Label.written (label : Label) (own : Bool) : List Char :=
  '\x7b' :: '\x7b' :: (label.source ++ '\x7d' :: '\x7d' :: lineEnd own)

-- Only the tags of parts can have a line for themselves.
def Label.fits (label : Label) (own : Bool) (before : List Char) : Bool :=
  label.isPlain &&
    if isPart label.tag then bif own then isStart before else isInked before else !own

-- Writes on from what has been written so far, which stands backwards.
abbrev Writer := List Char → Option (List Char)

def followed (first second : Writer) : Writer := fun before => (first before).bind second

def writeText? (text : List Char) : Writer := fun before =>
  if isTextOnly text then some (text.reverse ++ before) else none

def Label.write? (label : Label) (own : Bool) : Writer := fun before =>
  if label.fits own before then some ((label.written own).reverse ++ before) else none

-- A part that begins a line has lines for its tags.
def part? (name : String) (p : Path) (body : Writer) : Writer := fun before =>
  followed ((Label.opening name p).write? (isStart before))
    (followed body ((Label.closing name).write? (isStart before))) before

mutual

def Node.spell? : Node → Writer
  | .text s => writeText? s.toList
  | .print (.path p) => (Label.place p).write? false
  | .call helper [.path p] => (Label.call helper p).write? false
  | .ifTrue (.path p) body => part? "if" p (spellAll? body)
  | .ifFalse (.path p) body => part? "unless" p (spellAll? body)
  | .each (.path p) body => part? "each" p (spellAll? body)
  | .within (.path p) body => part? "with" p (spellAll? body)
  | _ => fun _ => none

def spellAll? : List Node → Writer
  | [] => some
  | node :: rest => followed node.spell? (spellAll? rest)

end

-- The text of a template.
def spelling? (template : Template) : Option (List Char) :=
  (spellAll? template []).map List.reverse

-- A part that begins a line has a line for each of its tags.
example :
    spelling? [.text "names:\n", forEach "names" [.text "- ", item, .text "\n"]] =
      some ("names:\n\x7b\x7b#each names\x7d\x7d\n- \x7b\x7bthis\x7d\x7d\n" ++
        "\x7b\x7b/each\x7d\x7d\n").toList := by
  cbv

theorem followed_eq_some_iff {first second : Writer} :
    followed first second before = some after ↔
      ∃ between, first before = some between ∧ second between = some after :=
  Option.bind_eq_some_iff

theorem writeText?_eq_some_iff :
    writeText? text before = some after ↔
      isTextOnly text = true ∧ text.reverse ++ before = after := by
  rw [writeText?, Option.ite_none_right_eq_some, Option.some_inj]

theorem Label.fits_of_write? (h : label.write? own before = some after) :
    label.fits own before = true ∧ after = (label.written own).reverse ++ before := by
  obtain ⟨hfits, hafter⟩ := Option.ite_none_right_eq_some.mp h
  exact ⟨hfits, (Option.some.inj hafter).symm⟩

-- What is written from the start of a line on does not depend on the lines before.
theorem isStart_append (h : isStart before = true) : isStart (text ++ before) = isStart text := by
  cases text with
  | nil => exact h
  | cons c tail => rfl

theorem isInked_append (h : isInked text = true) : isInked (text ++ before) = true := by
  rw [isInked, Bool.and_eq_true, Bool.not_eq_true', Bool.not_eq_true'] at h
  obtain ⟨hempty, hbreak⟩ := h
  rw [isInked, List.dropWhile_append, hempty]
  cases hrest : text.dropWhile isLineSpace with
  | nil => simp [hrest] at hempty
  | cons c tail =>
      rw [hrest] at hbreak
      simpa [startsAtBreak] using hbreak

theorem Label.write?_append (hstart : isStart before = true)
    (h : label.write? own text = some after) :
    label.write? own (text ++ before) = some (after ++ before) := by
  obtain ⟨hfits, rfl⟩ := Label.fits_of_write? h
  have hmore : label.fits own (text ++ before) = true := by
    obtain ⟨hplain, hown⟩ := Bool.and_eq_true_iff.mp hfits
    refine Bool.and_eq_true_iff.mpr ⟨hplain, ?_⟩
    by_cases hpart : isPart label.tag = true
    · rw [if_pos hpart] at hown ⊢
      cases own with
      | false => exact isInked_append hown
      | true => rwa [cond_true, isStart_append hstart]
    · rwa [if_neg hpart] at hown ⊢
  rw [write?, if_pos hmore, List.append_assoc]

theorem followed_append {first second : Writer}
    (hfirst : ∀ {text after}, first text = some after →
      first (text ++ before) = some (after ++ before))
    (hsecond : ∀ {text after}, second text = some after →
      second (text ++ before) = some (after ++ before))
    (h : followed first second text = some after) :
    followed first second (text ++ before) = some (after ++ before) := by
  obtain ⟨between, hbetween, hafter⟩ := followed_eq_some_iff.mp h
  exact followed_eq_some_iff.mpr ⟨_, hfirst hbetween, hsecond hafter⟩

theorem part?_append {name : String} {p : Path} {body : Writer}
    (hbody : ∀ {text after}, body text = some after → body (text ++ before) = some (after ++ before))
    (hstart : isStart before = true) (h : part? name p body text = some after) :
    part? name p body (text ++ before) = some (after ++ before) := by
  rw [part?, isStart_append hstart]
  exact followed_append (Label.write?_append hstart)
    (followed_append hbody (Label.write?_append hstart)) h

mutual

theorem spell?_append (hstart : isStart before = true) : {node : Node} → {text after : List Char} →
    node.spell? text = some after → node.spell? (text ++ before) = some (after ++ before)
  | .text s, text, after, h => by
      obtain ⟨hs, rfl⟩ := writeText?_eq_some_iff.mp h
      exact writeText?_eq_some_iff.mpr ⟨hs, by rw [List.append_assoc]⟩
  | .print (.path _), _, _, h => Label.write?_append hstart h
  | .call _ [.path _], _, _, h => Label.write?_append hstart h
  | .ifTrue (.path _) body, _, _, h => part?_append (spellAll?_append_before hstart) hstart h
  | .ifFalse (.path _) body, _, _, h => part?_append (spellAll?_append_before hstart) hstart h
  | .each (.path _) body, _, _, h => part?_append (spellAll?_append_before hstart) hstart h
  | .within (.path _) body, _, _, h => part?_append (spellAll?_append_before hstart) hstart h

theorem spellAll?_append_before (hstart : isStart before = true) : {template : List Node} →
    {text after : List Char} → spellAll? template text = some after →
    spellAll? template (text ++ before) = some (after ++ before)
  | [], _, _, h => by
      obtain rfl := Option.some.inj h
      rfl
  | _ :: _, _, _, h =>
      followed_append (spell?_append hstart) (spellAll?_append_before hstart) h

end

theorem spellAll?_append (part rest : Template) :
    spellAll? (part ++ rest) = followed (spellAll? part) (spellAll? rest) := by
  induction part with
  | nil => rfl
  | cons node part ih =>
      rw [List.cons_append, spellAll?, spellAll?, ih]
      funext before
      exact (Option.bind_assoc _ _ _).symm

theorem isStart_ofLines (lines : List String) : isStart (ofLines lines).toList.reverse = true := by
  rw [toList_ofLines]
  obtain rfl | ⟨more, line, rfl⟩ := lines.eq_nil_or_concat'
  · rfl
  · simp [isStart, startsAtBreak]

theorem spelling?_append {part rest : Template} {lines more : List String}
    (hpart : spelling? part = some (ofLines lines).toList)
    (hrest : spelling? rest = some (ofLines more).toList) :
    spelling? (part ++ rest) = some (ofLines (lines ++ more)).toList := by
  obtain ⟨first, hfirst, hlines⟩ := Option.map_eq_some_iff.mp hpart
  obtain ⟨second, hsecond, hmore⟩ := Option.map_eq_some_iff.mp hrest
  have hstart : isStart first = true := by
    rw [← List.reverse_reverse first, hlines]
    exact isStart_ofLines lines
  have hboth := spellAll?_append_before hstart hsecond
  rw [List.nil_append] at hboth
  simp only [spelling?, spellAll?_append, followed, hfirst, Option.bind_some, hboth,
    Option.map_some, List.reverse_append, hlines, hmore, ofLines_append, String.toList_append]

-- The characters of the texts in a template at hand. An instance holds those of a literal: `simp`
-- does not look into it, so that a literal is one step for it, however long it is.
class Spelt where
  chars : List Char

def spelt [s : Spelt] : List Char := s.chars

theorem toList_eq_spelt {s : String} {chars : List Char} (h : s = .ofList chars) :
    s.toList = @spelt ⟨chars⟩ := by
  rw [h, String.toList_ofList]
  rfl

theorem toList_tabs (n : Nat) : (tabs n).toList = List.replicate n '\t' := by
  rw [tabs, String.toList_ofList]

end StepCommand.Template
