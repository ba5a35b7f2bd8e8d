namespace StepCommand.Text

-- What closes one text may also open the next one.
def Between (opening closing : String) : List String → String → Prop
  | [], _ => True
  | s :: rest, text => ∃ before after,
      text = before ++ (opening ++ (s ++ (closing ++ after))) ∧
        Between opening closing rest (closing ++ after)

-- The fragments stand in the text in their order and do not overlap.
abbrev InOrder : List String → String → Prop := Between "" ""

variable {opening closing s t : String} {ss ts : List String}

namespace Between

theorem nil (opening closing text : String) : Between opening closing [] text := trivial

theorem cons {after : String} (before : String)
    (h : Between opening closing ts (closing ++ after)) :
    Between opening closing (s :: ts) (before ++ (opening ++ (s ++ (closing ++ after)))) :=
  ⟨before, after, rfl, h⟩

theorem prepend (before : String) (h : Between opening closing ss t) :
    Between opening closing ss (before ++ t) := by
  cases ss with
  | nil => trivial
  | cons s rest =>
      obtain ⟨gap, after, rfl, hrest⟩ := h
      exact ⟨before ++ gap, after, by simp only [String.append_assoc], hrest⟩

theorem append (hs : Between opening closing ss s) (ht : Between opening closing ts t) :
    Between opening closing (ss ++ ts) (s ++ t) := by
  induction ss generalizing s with
  | nil => exact ht.prepend s
  | cons first rest ih =>
      obtain ⟨before, after, rfl, hrest⟩ := hs
      have hmore := ih hrest
      simp only [String.append_assoc] at hmore ⊢
      exact hmore.cons before

theorem extend (after : String) (h : Between opening closing ss t) :
    Between opening closing ss (t ++ after) := by
  simpa using h.append (nil opening closing after)

theorem join {α : Type} {xs : List α} {texts : α → List String} {text : α → String}
    (h : ∀ x ∈ xs, Between opening closing (texts x) (text x)) :
    Between opening closing (xs.flatMap texts) (String.join (xs.map text)) := by
  induction xs with
  | nil => trivial
  | cons x rest ih =>
      have hfirst := h x List.mem_cons_self
      have hrest := ih fun y hy => h y (List.mem_cons_of_mem _ hy)
      rw [List.flatMap_cons, List.map_cons, String.join_cons]
      exact hfirst.append hrest

theorem join_single {α : Type} {xs : List α} {key text : α → String}
    (h : ∀ x ∈ xs, Between opening closing [key x] (text x)) :
    Between opening closing (xs.map key) (String.join (xs.map text)) := by
  rw [List.map_eq_flatMap]
  exact join h

end Between

namespace InOrder

theorem single (before s after : String) : InOrder [s] (before ++ (s ++ after)) :=
  ⟨before, after, by simp only [String.empty_append], trivial⟩

theorem self (s : String) : InOrder [s] s := by
  simpa using single "" s ""

theorem join_self (ss : List String) : InOrder ss (String.join ss) := by
  have h : InOrder (ss.map id) (String.join (ss.map id)) := Between.join_single fun s _ => self s
  simpa using h

theorem join_of_mem {lines : List String} (h : InOrder ss s) (hmem : s ∈ lines) :
    InOrder ss (String.join lines) := by
  obtain ⟨before, after, rfl⟩ := List.append_of_mem hmem
  rw [String.join_append, String.join_cons]
  exact (h.extend _).prepend _

end InOrder

end StepCommand.Text
