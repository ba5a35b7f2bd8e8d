namespace StepCommand

theorem intercalate_cons (separator s : String) (ss : List String) :
    separator.intercalate (s :: ss) = s ++ String.join (ss.map fun t => separator ++ t) := by
  induction ss generalizing s with
  | nil => simp
  | cons t rest ih =>
      rw [String.intercalate_cons_cons, ih, List.map_cons, String.join_cons]
      simp only [String.append_assoc]

namespace Text

-- The lines stand in the text in their order, with others before, between and after them.
def HasLines (lines : List String) (text : String) : Prop :=
  ∃ all, lines.Sublist all ∧ text = String.join (all.map fun line => line ++ "\n")

def ofLines (lines : List String) : String := String.join (lines.map fun line => line ++ "\n")

theorem toList_ofLines (lines : List String) :
    (ofLines lines).toList = lines.flatMap fun line => line.toList ++ ['\n'] := by
  simp [ofLines, String.toList_join, List.flatMap_map]

theorem ofLines_append (lines more : List String) :
    ofLines (lines ++ more) = ofLines lines ++ ofLines more := by
  rw [ofLines, List.map_append, String.join_append, ofLines, ofLines]

def EndsLine (s : String) : Prop := ∃ t, s = t ++ "\n"

variable {s t : String} {ss ts : List String}

theorem EndsLine.prepend (s : String) (h : EndsLine t) : EndsLine (s ++ t) := by
  obtain ⟨u, rfl⟩ := h
  exact ⟨s ++ u, String.append_assoc.symm⟩

theorem EndsLine.join (h : ss.getLast? = some s) (hs : EndsLine s) :
    EndsLine (String.join ss) := by
  obtain ⟨before, rfl⟩ := List.getLast?_eq_some_iff.mp h
  rw [String.join_append, String.join_cons, String.join_nil, String.append_empty]
  exact hs.prepend _

namespace HasLines

theorem nil : HasLines [] "" := ⟨[], .refl [], rfl⟩

theorem single (s : String) : HasLines [s] (s ++ "\n") := ⟨[s], .refl [s], by simp⟩

theorem skip (h : EndsLine s) : HasLines [] s := by
  obtain ⟨t, rfl⟩ := h
  exact ⟨[t], List.nil_sublist [t], by simp⟩

theorem append (hs : HasLines ss s) (ht : HasLines ts t) : HasLines (ss ++ ts) (s ++ t) := by
  obtain ⟨all, hall, rfl⟩ := hs
  obtain ⟨others, hothers, rfl⟩ := ht
  exact ⟨all ++ others, hall.append hothers, by rw [List.map_append, String.join_append]⟩

theorem join {α : Type} {xs : List α} {lines : α → List String} {text : α → String}
    (h : ∀ x ∈ xs, HasLines (lines x) (text x)) :
    HasLines (xs.flatMap lines) (String.join (xs.map text)) := by
  induction xs with
  | nil => exact nil
  | cons x rest ih =>
      have hfirst := h x List.mem_cons_self
      have hrest := ih fun y hy => h y (List.mem_cons_of_mem _ hy)
      rw [List.flatMap_cons, List.map_cons, String.join_cons]
      exact hfirst.append hrest

theorem join_single {α : Type} {xs : List α} {line text : α → String}
    (h : ∀ x ∈ xs, HasLines [line x] (text x)) :
    HasLines (xs.map line) (String.join (xs.map text)) := by
  rw [List.map_eq_flatMap]
  exact join h

theorem skip_join (h : ∀ s ∈ ss, EndsLine s) : HasLines [] (String.join ss) := by
  induction ss with
  | nil => exact nil
  | cons s rest ih =>
      have hfirst := skip (h s List.mem_cons_self)
      have hrest := ih fun t ht => h t (List.mem_cons_of_mem _ ht)
      rw [String.join_cons]
      exact hfirst.append hrest

theorem join_of_mem (hmem : s ++ "\n" ∈ ss) (h : ∀ t ∈ ss, EndsLine t) :
    HasLines [s] (String.join ss) := by
  obtain ⟨before, after, rfl⟩ := List.append_of_mem hmem
  have hbefore : HasLines [] (String.join before) :=
    skip_join fun t ht => h t (List.mem_append_left _ ht)
  have hafter : HasLines [] (String.join after) :=
    skip_join fun t ht => h t (List.mem_append_right _ (List.mem_cons_of_mem _ ht))
  rw [String.join_append, String.join_cons]
  exact hbefore.append ((single s).append hafter)

theorem sublist (h : HasLines ss s) (hts : ts.Sublist ss) : HasLines ts s := by
  obtain ⟨all, hall, rfl⟩ := h
  exact ⟨all, hts.trans hall, rfl⟩

end HasLines

end Text

end StepCommand
