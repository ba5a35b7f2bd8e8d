import Mathlib.Data.List.Induction
import StepCommand.Proofs.Unique

namespace StepCommand

variable {α κ : Type} [DecidableEq κ] {key : α → κ} {items : List α}

-- The keys of the items join those that have been met.
theorem uniqueFrom_append (key : α → κ) (seen : List κ) (items others : List α) :
    uniqueFrom key seen (items ++ others) =
      uniqueFrom key seen items ++ uniqueFrom key (items.map key ++ seen) others := by
  induction items generalizing seen with
  | nil => rfl
  | cons item rest ih =>
      by_cases hitem : key item ∈ seen
      · have hmet : ∀ k, k ∈ rest.map key ++ seen ↔ k ∈ (item :: rest).map key ++ seen := by
          intro k
          have hknown : k = key item → k ∈ seen := fun h => h ▸ hitem
          simp only [List.map_cons, List.cons_append, List.mem_cons, List.mem_append]
          exact ⟨.inr, fun h => h.elim (fun hk => .inr (hknown hk)) id⟩
        simp only [List.cons_append, uniqueFrom, hitem, if_true]
        rw [ih seen, uniqueFrom_congr hmet]
      · have hmet : ∀ k, k ∈ rest.map key ++ key item :: seen ↔
            k ∈ (item :: rest).map key ++ seen := by
          intro k
          simp only [List.map_cons, List.cons_append, List.mem_cons, List.mem_append, or_left_comm]
        simp only [List.cons_append, uniqueFrom, hitem, if_false]
        rw [ih (key item :: seen), uniqueFrom_congr hmet]

-- Keys that have been met may be left out before.
theorem uniqueFrom_filter_notMem (key : α → κ) (seen met : List κ) (items : List α) :
    uniqueFrom key seen (items.filter fun x => key x ∉ met) =
      uniqueFrom key (met ++ seen) items := by
  induction met generalizing seen with
  | nil => simp
  | cons k rest ih =>
      have hsplit : (items.filter fun x => key x ∉ k :: rest) =
          (items.filter fun x => key x ∉ rest).filter fun x => key x ≠ k := by
        rw [List.filter_filter]
        refine List.filter_congr fun x _ => ?_
        simp [not_or]
      have hswap : ∀ l, l ∈ rest ++ k :: seen ↔ l ∈ k :: rest ++ seen := by
        intro l
        simp only [List.cons_append, List.mem_append, List.mem_cons, or_left_comm]
      rw [hsplit, uniqueFrom_filter, ih, uniqueFrom_congr hswap]

theorem uniqueBy_append (key : α → κ) (items others : List α) :
    uniqueBy key (items ++ others) =
      uniqueBy key items ++ uniqueBy key (others.filter fun x => key x ∉ items.map key) := by
  rw [uniqueBy, uniqueFrom_append, uniqueBy, uniqueBy, uniqueFrom_filter_notMem]

-- One more item is kept if its key is new.
theorem uniqueBy_concat (key : α → κ) (items : List α) (x : α) :
    uniqueBy key (items ++ [x]) =
      uniqueBy key items ++ if key x ∈ items.map key then [] else [x] := by
  rw [uniqueBy_append]
  by_cases hx : key x ∈ items.map key
  · rw [if_pos hx, List.filter_cons_of_neg (by simpa using hx)]
    rfl
  · rw [if_neg hx, List.filter_cons_of_pos (by simpa using hx)]
    rfl

-- The items at whose position there is no earlier item of the same key.
def firsts (key : α → κ) (items : List α) : List α :=
  (items.zipIdx.filter fun p => key p.1 ∉ (items.take p.2).map key).map Prod.fst

theorem firsts_concat (key : α → κ) (items : List α) (x : α) :
    firsts key (items ++ [x]) = firsts key items ++ if key x ∈ items.map key then [] else [x] := by
  have hearlier : (items.zipIdx.filter fun p => key p.1 ∉ ((items ++ [x]).take p.2).map key) =
      items.zipIdx.filter fun p => key p.1 ∉ (items.take p.2).map key := by
    refine List.filter_congr fun p hp => ?_
    have hle : p.2 ≤ items.length := Nat.le_of_lt (List.snd_lt_of_mem_zipIdx hp)
    rw [List.take_append_of_le_length hle]
  rw [firsts, List.zipIdx_append, List.filter_append, hearlier, List.map_append, ← firsts]
  congr 1
  by_cases hx : key x ∈ items.map key
  · simp [hx]
  · simp [hx]

theorem uniqueBy_eq_firsts (key : α → κ) (items : List α) :
    uniqueBy key items = firsts key items := by
  induction items using List.reverseRecOn with
  | nil => rfl
  | append_singleton items x ih => rw [uniqueBy_concat, firsts_concat, ih]

theorem firsts_sublist (key : α → κ) (items : List α) : (firsts key items).Sublist items := by
  have hsub : (firsts key items).Sublist (items.zipIdx.map Prod.fst) :=
    List.filter_sublist.map Prod.fst
  rwa [List.zipIdx_map_fst] at hsub

-- A list without repetitions is kept as it is.
theorem uniqueBy_eq_self (h : (items.map key).Nodup) : uniqueBy key items = items := by
  induction items using List.reverseRecOn with
  | nil => rfl
  | append_singleton items x ih =>
      rw [List.map_append, List.map_singleton, List.nodup_append] at h
      obtain ⟨hitems, -, hnew⟩ := h
      have hx : key x ∉ items.map key := fun hmem => hnew _ hmem _ List.mem_cons_self rfl
      rw [uniqueBy_concat, if_neg hx, ih hitems]

-- What is kept, by positions; what follows from it for the keys and the order; and how two lists
-- are kept that follow each other.
theorem uniqueBy_keeps_firsts (key : α → κ) (items others : List α) :
    uniqueBy key items = firsts key items ∧
      ((uniqueBy key items).map key).Nodup ∧
      items.map key ⊆ (uniqueBy key items).map key ∧
      (uniqueBy key items).Sublist items ∧
      uniqueBy key (uniqueBy key items) = uniqueBy key items ∧
      uniqueBy key (items ++ others) =
        uniqueBy key items ++ uniqueBy key (others.filter fun x => key x ∉ items.map key) := by
  have hfirsts := uniqueBy_eq_firsts key items
  have hnodup := nodup_map_uniqueBy key items
  exact ⟨hfirsts, hnodup, fun _ => mem_map_uniqueBy_iff.mpr, hfirsts ▸ firsts_sublist key items,
    uniqueBy_eq_self hnodup, uniqueBy_append key items others⟩

example : uniqueBy (· % 3) [4, 1, 2, 7, 5, 3] = [4, 2, 3] := by decide

end StepCommand
