import StepCommand.Proofs.Template.Mention
import StepCommand.Proofs.Text.Encoded

namespace StepCommand

namespace Text

-- `words` may overlap; a mark stands wherever one of them begins.
def markFrom (words : List (List Char)) (mark : List Char) : List Char → List Char
  | [] => []
  | c :: rest =>
      if words.any fun word => word.isPrefixOf (c :: rest) then
        mark ++ c :: markFrom words mark rest
      else c :: markFrom words mark rest

def marked (words : List String) (mark s : String) : String :=
  .ofList (markFrom (words.map String.toList) mark.toList s.toList)

end Text

namespace Template

open Text (encoded marked markFrom)

mutual

def Node.marked (words : List String) (mark : String) : Node → Node
  | .text s => .text (Text.marked words mark s)
  | .print argument => .print argument
  | .call helper arguments => .call helper arguments
  | .ifTrue condition body => .ifTrue condition (markedAll words mark body)
  | .ifFalse condition body => .ifFalse condition (markedAll words mark body)
  | .each items body => .each items (markedAll words mark body)
  | .within value body => .within value (markedAll words mark body)

def markedAll (words : List String) (mark : String) : Template → Template
  | [] => []
  | node :: rest => node.marked words mark :: markedAll words mark rest

end

variable {words : List String} {word mark s t : String} {part rest : Template} {node : Node}

@[simp] theorem markedAll_nil : markedAll words mark [] = [] := rfl

@[simp] theorem markedAll_cons :
    markedAll words mark (node :: rest) = node.marked words mark :: markedAll words mark rest := rfl

theorem markedAll_append :
    markedAll words mark (part ++ rest) =
      markedAll words mark part ++ markedAll words mark rest := by
  induction part with
  | nil => rfl
  | cons node part ih => simp only [List.cons_append, markedAll_cons, ih]

theorem encoded_append (s t : String) : encoded (s ++ t) = encoded s ++ encoded t := by
  simp [encoded, String.toByteArray_append]

theorem occurrences_le_append (word xs ys : List UInt8) :
    occurrences word ys ≤ occurrences word (xs ++ ys) := by
  induction xs with
  | nil => exact Nat.le_refl _
  | cons b xs ih =>
      rw [List.cons_append, occurrences]
      omega

theorem occurrences_pos_of_isPrefix {word xs : List UInt8} (hne : xs ≠ []) (h : word <+: xs) :
    0 < occurrences word xs := by
  cases xs with
  | nil => exact absurd rfl hne
  | cons b xs =>
      rw [occurrences, if_pos (List.isPrefixOf_iff_prefix.mpr h)]
      omega

theorem isPrefix_encoded {w s : String} (h : w.toList <+: s.toList) :
    encoded w <+: encoded s := by
  obtain ⟨rest, hrest⟩ := h
  have hs : s = w ++ .ofList rest := by
    rw [← String.toList_inj, String.toList_append, String.toList_ofList, hrest]
  exact ⟨encoded (.ofList rest), by rw [hs, encoded_append]⟩

theorem encoded_ne_nil (h : s ≠ "") : encoded s ≠ [] := by
  intro hnil
  apply h
  rw [← String.toByteArray_inj]
  exact ByteArray.ext (Array.toList_inj.mp (by simpa [encoded] using hnil))

-- The first `n` bytes are those of characters before the word.
theorem occurrences_pos {front back : List Char} {n : Nat} (hs : s.toList = front ++ back)
    (hback : back ≠ []) (hn : n ≤ (encoded (.ofList front)).length)
    (hword : word.toList <+: back) : 0 < occurrences (encoded word) ((encoded s).drop n) := by
  have hsplit : encoded s = encoded (.ofList front) ++ encoded (.ofList back) := by
    rw [← encoded_append, ← String.ofList_append, ← hs, String.ofList_toList]
  have hne : encoded (.ofList back) ≠ [] := by
    apply encoded_ne_nil
    intro hempty
    exact hback (by simpa using congrArg String.toList hempty)
  have hbegins : encoded word <+: encoded (.ofList back) :=
    isPrefix_encoded (by rwa [String.toList_ofList])
  rw [hsplit, List.drop_append_of_le_length hn]
  exact Nat.lt_of_lt_of_le (occurrences_pos_of_isPrefix hne hbegins)
    (occurrences_le_append _ _ _)

theorem markFrom_of_forall {words : List (List Char)} {mark cs : List Char}
    (h : ∀ word ∈ words, ∀ front back, cs = front ++ back → back ≠ [] → ¬word <+: back) :
    markFrom words mark cs = cs := by
  induction cs with
  | nil => rfl
  | cons c rest ih =>
      have hhead : (words.any fun word => word.isPrefixOf (c :: rest)) = false := by
        rw [List.any_eq_false]
        intro word hw hbegins
        exact h word hw [] _ rfl (List.cons_ne_nil _ _) (List.isPrefixOf_iff_prefix.mp hbegins)
      have hrest : markFrom words mark rest = rest :=
        ih fun word hw front back hcs => h word hw (c :: front) back (by rw [hcs, List.cons_append])
      simp only [markFrom, hhead, Bool.false_eq_true, if_false, hrest]

theorem marked_of_occurrences
    (h : ∀ word ∈ words, occurrences (encoded word) (encoded s) = 0) :
    Text.marked words mark s = s := by
  rw [Text.marked, markFrom_of_forall, String.ofList_toList]
  intro word hw front back hs hback hbegins
  obtain ⟨w, hmem, rfl⟩ := List.mem_map.mp hw
  have hpos := occurrences_pos hs hback (Nat.zero_le _) hbegins
  rw [List.drop_zero, h w hmem] at hpos
  exact Nat.lt_irrefl 0 hpos

-- One of the words stands at the beginning of the text, and none further on.
def IsUse (words : List String) (s : String) : Prop :=
  (∃ word ∈ words, word ≠ "" ∧ encoded word <+: encoded s) ∧
    ∀ word ∈ words, occurrences (encoded word) ((encoded s).drop 1) = 0

instance (words : List String) (s : String) : Decidable (IsUse words s) :=
  inferInstanceAs (Decidable (_ ∧ _))

theorem marked_of_isUse (h : IsUse words s) : Text.marked words mark s = mark ++ s := by
  obtain ⟨⟨word, hmem, hne, hbegins⟩, hrest⟩ := h
  obtain ⟨u, rfl⟩ := Text.exists_append_of_isPrefix hbegins
  cases hcs : (word ++ u).toList with
  | nil =>
      rw [String.toList_append, List.append_eq_nil_iff] at hcs
      exact absurd (String.toList_inj.mp hcs.1) hne
  | cons c rest =>
      have hhead : ((words.map String.toList).any fun w => w.isPrefixOf (c :: rest)) = true := by
        refine List.any_eq_true.mpr ⟨word.toList, List.mem_map_of_mem hmem, ?_⟩
        rw [← hcs, String.toList_append]
        exact List.isPrefixOf_iff_prefix.mpr (List.prefix_append _ _)
      have htail : markFrom (words.map String.toList) mark.toList rest = rest := by
        apply markFrom_of_forall
        intro w hw front back hsplit hback hstart
        obtain ⟨other, hother, rfl⟩ := List.mem_map.mp hw
        have hlength : 1 ≤ (encoded (.ofList (c :: front))).length :=
          List.length_pos_of_ne_nil (encoded_ne_nil (by simp [← String.toList_inj]))
        have hlater : (word ++ u).toList = (c :: front) ++ back := by
          rw [hcs, hsplit, List.cons_append]
        have hpos := occurrences_pos hlater hback hlength hstart
        rw [hrest other hother] at hpos
        exact Nat.lt_irrefl 0 hpos
      rw [Text.marked, hcs, markFrom, if_pos hhead, htail, ← hcs, String.ofList_append,
        String.ofList_toList, String.ofList_toList]

mutual

theorem Node.marked_of_literals : ∀ {node : Node},
    (∀ s ∈ node.literals, Text.marked words mark s = s) → node.marked words mark = node
  | .text s, h => by rw [Node.marked, h s (by simp [Node.literals])]
  | .print _, _ => by rw [Node.marked]
  | .call _ _, _ => by rw [Node.marked]
  | .ifTrue _ body, h => by
      rw [Node.marked, markedAll_of_literals (by simpa [Node.literals] using h)]
  | .ifFalse _ body, h => by
      rw [Node.marked, markedAll_of_literals (by simpa [Node.literals] using h)]
  | .each _ body, h => by
      rw [Node.marked, markedAll_of_literals (by simpa [Node.literals] using h)]
  | .within _ body, h => by
      rw [Node.marked, markedAll_of_literals (by simpa [Node.literals] using h)]

theorem markedAll_of_literals : ∀ {part : Template},
    (∀ s ∈ literalsOf part, Text.marked words mark s = s) → markedAll words mark part = part
  | [], _ => rfl
  | node :: rest, h => by
      simp only [literalsOf, List.mem_append] at h
      rw [markedAll, Node.marked_of_literals fun s hs => h s (.inl hs),
        markedAll_of_literals fun s hs => h s (.inr hs)]

end

theorem markedAll_of_mentions (h : ∀ word ∈ words, mentions word part = 0) :
    markedAll words mark part = part := by
  refine markedAll_of_literals fun s hs => marked_of_occurrences fun word hw => ?_
  have hsum := h word hw
  rw [mentions, List.sum_eq_zero_iff_forall_eq_nat] at hsum
  exact hsum _ (List.mem_map_of_mem hs)

end Template

end StepCommand
