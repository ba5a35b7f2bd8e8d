import Mathlib.Data.List.Forall2
import StepCommand.Unique

namespace StepCommand

variable {α κ : Type} [DecidableEq κ] {key : α → κ} {seen others : List κ} {items : List α}
  {x : α}

-- Keys that have been met count, not the order in which they have been met.
theorem uniqueFrom_congr (h : ∀ k, k ∈ seen ↔ k ∈ others) :
    uniqueFrom key seen items = uniqueFrom key others items := by
  induction items generalizing seen others with
  | nil => rfl
  | cons item rest ih =>
      have hnext : ∀ k, k ∈ key item :: seen ↔ k ∈ key item :: others := by
        intro k
        simp only [List.mem_cons, h]
      by_cases hitem : key item ∈ seen
      · simp only [uniqueFrom, hitem, (h _).mp hitem, if_true, ih h]
      · have hother : key item ∉ others := fun hmem => hitem ((h _).mpr hmem)
        simp only [uniqueFrom, hitem, hother, if_false, ih hnext]

theorem mem_uniqueFrom_iff :
    x ∈ uniqueFrom key seen items ↔
      key x ∉ seen ∧ items.find? (fun y => key y = key x) = some x := by
  induction items generalizing seen with
  | nil => simp [uniqueFrom]
  | cons item rest ih =>
      by_cases hx : key item = key x
      · have hfirst : (item :: rest).find? (fun y => key y = key x) = some item := by simp [hx]
        rw [hfirst, Option.some.injEq]
        by_cases hitem : key item ∈ seen
        · have hseen : key x ∈ seen := hx ▸ hitem
          simp only [uniqueFrom, hitem, if_true, ih, hseen, not_true, false_and]
        · have hseen : key x ∉ seen := hx ▸ hitem
          have hmet : key x ∈ key item :: seen := hx ▸ List.mem_cons_self
          simp only [uniqueFrom, hitem, if_false, List.mem_cons (a := x), ih, hseen, hmet, not_true,
            not_false_eq_true, false_and, or_false, true_and, eq_comm]
      · have hne : x ≠ item := fun h => hx (h ▸ rfl)
        by_cases hitem : key item ∈ seen
        · simp [uniqueFrom, hitem, ih, hx]
        · simp [uniqueFrom, hitem, ih, hx, hne, Ne.symm hx]

theorem nodup_map_uniqueFrom (key : α → κ) (seen : List κ) (items : List α) :
    ((uniqueFrom key seen items).map key).Nodup := by
  induction items generalizing seen with
  | nil => exact List.nodup_nil
  | cons item rest ih =>
      by_cases hitem : key item ∈ seen
      · simp only [uniqueFrom, hitem, if_true, ih]
      · simp only [uniqueFrom, hitem, if_false, List.map_cons, List.nodup_cons, ih, and_true]
        intro hmem
        obtain ⟨x, hx, hkey⟩ := List.mem_map.mp hmem
        have hseen := (mem_uniqueFrom_iff.mp hx).1
        exact hseen (hkey ▸ List.mem_cons_self)

theorem mem_uniqueBy_iff :
    x ∈ uniqueBy key items ↔ items.find? (fun y => key y = key x) = some x := by
  simp [uniqueBy, mem_uniqueFrom_iff]

theorem nodup_map_uniqueBy (key : α → κ) (items : List α) :
    ((uniqueBy key items).map key).Nodup := nodup_map_uniqueFrom key [] items

-- Items may be looked at through what is kept of them, as long as it has their key.
theorem map_uniqueFrom {β : Type} {f : α → β} {k : β → κ} (h : ∀ x, k (f x) = key x) :
    (uniqueFrom key seen items).map f = uniqueFrom k seen (items.map f) := by
  induction items generalizing seen with
  | nil => rfl
  | cons item rest ih =>
      by_cases hitem : key item ∈ seen
      · simp only [uniqueFrom, List.map_cons, h, hitem, if_true, ih]
      · simp only [uniqueFrom, List.map_cons, h, hitem, if_false, ih]

theorem map_uniqueBy {β : Type} {f : α → β} {k : β → κ} (h : ∀ x, k (f x) = key x)
    (items : List α) : (uniqueBy key items).map f = uniqueBy k (items.map f) := map_uniqueFrom h

-- Items that stand for each other under the same keys are kept or left out together.
theorem forall₂_uniqueFrom {β : Type} {R : α → β → Prop} {k : β → κ} {ys : List β}
    (h : ∀ x y, R x y → key x = k y) (hall : List.Forall₂ R items ys) :
    List.Forall₂ R (uniqueFrom key seen items) (uniqueFrom k seen ys) := by
  induction hall generalizing seen with
  | nil => exact .nil
  | @cons x y _ _ hfirst _ ih =>
      have hkey := h x y hfirst
      by_cases hx : key x ∈ seen
      · have hy : k y ∈ seen := hkey ▸ hx
        simp only [uniqueFrom, hx, hy, if_true]
        exact ih
      · have hy : k y ∉ seen := hkey ▸ hx
        simp only [uniqueFrom, hy, if_false, hkey]
        exact .cons hfirst ih

-- Keys may be written in another way, as long as different keys stay different.
theorem uniqueFrom_injective {μ : Type} [DecidableEq μ] {f : κ → μ}
    (hf : ∀ k l, f k = f l → k = l) (key : α → κ) (seen : List κ) (items : List α) :
    uniqueFrom (fun x => f (key x)) (seen.map f) items = uniqueFrom key seen items := by
  induction items generalizing seen with
  | nil => rfl
  | cons item rest ih =>
      have hmem : f (key item) ∈ seen.map f ↔ key item ∈ seen := by
        constructor
        · intro h
          obtain ⟨k, hk, heq⟩ := List.mem_map.mp h
          exact hf k (key item) heq ▸ hk
        · exact List.mem_map_of_mem
      have hnext := ih (key item :: seen)
      rw [List.map_cons] at hnext
      by_cases hitem : key item ∈ seen
      · simp only [uniqueFrom, hmem, hitem, if_true, ih]
      · simp only [uniqueFrom, hmem, hitem, if_false, hnext]

-- No key is lost.
theorem mem_map_uniqueBy_of_mem (h : x ∈ items) : key x ∈ (uniqueBy key items).map key := by
  have hsome : (items.find? fun y => key y = key x).isSome :=
    List.find?_isSome.mpr ⟨x, h, by simp⟩
  obtain ⟨first, hfirst⟩ := Option.isSome_iff_exists.mp hsome
  have hkey : key first = key x := by simpa using List.find?_some hfirst
  refine List.mem_map.mpr ⟨first, mem_uniqueBy_iff.mpr ?_, hkey⟩
  simpa only [hkey] using hfirst

theorem mem_map_uniqueBy_iff {k : κ} :
    k ∈ (uniqueBy key items).map key ↔ k ∈ items.map key := by
  constructor
  · intro h
    obtain ⟨x, hx, rfl⟩ := List.mem_map.mp h
    exact List.mem_map_of_mem (List.mem_of_find?_eq_some (mem_uniqueBy_iff.mp hx))
  · intro h
    obtain ⟨x, hx, rfl⟩ := List.mem_map.mp h
    exact mem_map_uniqueBy_of_mem hx

-- Items whose key has been met may be left out before.
theorem uniqueFrom_filter (key : α → κ) (seen : List κ) (items : List α) (k : κ) :
    uniqueFrom key seen (items.filter fun x => key x ≠ k) = uniqueFrom key (k :: seen) items := by
  induction items generalizing seen with
  | nil => rfl
  | cons item rest ih =>
      by_cases hk : key item = k
      · have hmet : key item ∈ k :: seen := hk ▸ List.mem_cons_self
        rw [List.filter_cons_of_neg (by simp [hk]), uniqueFrom, if_pos hmet, ih]
      · rw [List.filter_cons_of_pos (by simp [hk])]
        by_cases hitem : key item ∈ seen
        · rw [uniqueFrom, uniqueFrom, if_pos hitem, if_pos (List.mem_cons_of_mem _ hitem), ih]
        · have hnew : key item ∉ k :: seen := by simp [hk, hitem]
          have hswap : ∀ l, l ∈ k :: key item :: seen ↔ l ∈ key item :: k :: seen := by
            intro l
            simp only [List.mem_cons, or_left_comm]
          rw [uniqueFrom, uniqueFrom, if_neg hitem, if_neg hnew, ih, uniqueFrom_congr hswap]

-- Keys that are met first come first.
theorem pairwise_map_uniqueFrom (key : α → κ) (seen : List κ) (items : List α) :
    ((uniqueFrom key seen items).map key).Pairwise fun k l =>
      items.findIdx (fun x => key x = k) < items.findIdx fun x => key x = l := by
  induction items generalizing seen with
  | nil => exact List.Pairwise.nil
  | cons item rest ih =>
      have hnew : ∀ others k, key item ∈ others →
          k ∈ (uniqueFrom key others rest).map key → key item ≠ k := by
        intro others k hmem hk heq
        obtain ⟨x, hx, rfl⟩ := List.mem_map.mp hk
        exact (mem_uniqueFrom_iff.mp hx).1 (heq ▸ hmem)
      have hlater : ∀ others, key item ∈ others →
          ((uniqueFrom key others rest).map key).Pairwise fun k l =>
            (item :: rest).findIdx (fun x => key x = k) <
              (item :: rest).findIdx fun x => key x = l := by
        intro others hmem
        refine (ih others).imp_of_mem ?_
        intro k l hk hl hlt
        have hkey := hnew others k hmem hk
        have hother := hnew others l hmem hl
        simpa [List.findIdx_cons, hkey, hother] using hlt
      by_cases hitem : key item ∈ seen
      · simpa only [uniqueFrom, hitem, if_true] using hlater seen hitem
      · simp only [uniqueFrom, hitem, if_false, List.map_cons, List.pairwise_cons]
        refine ⟨?_, hlater _ List.mem_cons_self⟩
        intro l hl
        have hother := hnew _ l List.mem_cons_self hl
        simp [List.findIdx_cons, hother]

theorem flatMap_filter_perm_filter (key : α → κ) {keys : List κ} (hnodup : keys.Nodup)
    (items : List α) :
    (keys.flatMap fun k => items.filter fun x => key x = k).Perm
      (items.filter fun x => key x ∈ keys) := by
  induction keys with
  | nil => simp
  | cons k rest ih =>
      obtain ⟨hk, hrest⟩ := List.nodup_cons.mp hnodup
      have hfirst : items.filter (fun x => key x = k) =
          (items.filter fun x => key x ∈ k :: rest).filter fun x => key x = k := by
        rw [List.filter_filter]
        refine List.filter_congr fun x _ => ?_
        by_cases hx : key x = k <;> simp [hx]
      have hlater : items.filter (fun x => key x ∈ rest) =
          (items.filter fun x => key x ∈ k :: rest).filter fun x => !decide (key x = k) := by
        rw [List.filter_filter]
        refine List.filter_congr fun x _ => ?_
        by_cases hx : key x = k
        · simp [hx, hk]
        · simp [hx]
      rw [List.flatMap_cons]
      refine ((ih hrest).append_left _).trans ?_
      rw [hfirst, hlater]
      exact List.filter_append_perm _ _

-- Nothing is lost and nothing comes twice when items are put together by their keys.
theorem flatMap_filter_perm (key : α → κ) {keys : List κ} (hnodup : keys.Nodup)
    (hkeys : ∀ x ∈ items, key x ∈ keys) :
    (keys.flatMap fun k => items.filter fun x => key x = k).Perm items := by
  have hall : (items.filter fun x => key x ∈ keys) = items :=
    List.filter_eq_self.mpr fun x hx => decide_eq_true (hkeys x hx)
  have hperm := flatMap_filter_perm_filter key hnodup items
  rwa [hall] at hperm

variable {entries : List (κ × α)} {k : κ}

theorem mem_of_lookup (h : entries.lookup k = some x) : (k, x) ∈ entries := by
  obtain ⟨before, after, rfl, _⟩ := List.lookup_eq_some_iff.mp h
  simp

theorem lookup_eq_some_of_mem (hn : (entries.map Prod.fst).Nodup) (h : (k, x) ∈ entries) :
    entries.lookup k = some x := by
  obtain ⟨before, after, rfl⟩ := List.append_of_mem h
  refine List.lookup_eq_some_iff.mpr ⟨before, after, rfl, fun entry he => ?_⟩
  rw [List.map_append, List.map_cons, List.nodup_append] at hn
  exact bne_iff_ne.mpr (hn.2.2 _ (List.mem_map_of_mem he) _ List.mem_cons_self).symm

end StepCommand
