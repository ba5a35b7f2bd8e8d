import Mathlib.Data.List.Sort
import StepCommand.Value

namespace StepCommand.Value

variable {α : Type} {l l' : List (String × α)}

theorem pairwise_byKey (h : (l.map Prod.fst).Nodup) :
    (l.mergeSort byKey).Pairwise fun a b => a.1 < b.1 := by
  have hsorted : (l.mergeSort byKey).Pairwise fun a b => byKey a b = true := by
    refine List.pairwise_mergeSort (fun a b c hab hbc => ?_) (fun a b => ?_) l
    · simp only [byKey, decide_eq_true_eq] at *
      exact String.le_trans hab hbc
    · simp only [byKey, Bool.or_eq_true, decide_eq_true_eq]
      exact String.le_total a.1 b.1
  have hnodup : ((l.mergeSort byKey).map Prod.fst).Nodup :=
    ((List.mergeSort_perm l _).map Prod.fst).nodup_iff.mpr h
  refine (hsorted.and (List.pairwise_map.mp hnodup)).imp fun h => ?_
  obtain ⟨hle, hne⟩ := h
  simp only [byKey, decide_eq_true_eq] at hle
  by_contra hlt
  exact hne (String.le_antisymm hle (String.not_lt.mp hlt))

-- If no two entries have the same key, there is only one such order.
theorem mergeSort_byKey_eq_of_perm (h : (l.map Prod.fst).Nodup) (hperm : l.Perm l') :
    l.mergeSort byKey = l'.mergeSort byKey := by
  have h' : (l'.map Prod.fst).Nodup := (hperm.map Prod.fst).nodup_iff.mp h
  have hsame : (l.mergeSort byKey).Perm (l'.mergeSort byKey) :=
    (List.mergeSort_perm l _).trans (hperm.trans (List.mergeSort_perm l' _).symm)
  refine hsame.eq_of_pairwise (fun a b _ _ hab hba => ?_) (pairwise_byKey h) (pairwise_byKey h')
  exact absurd (String.lt_trans hab hba) (String.lt_irrefl a.1)

end StepCommand.Value
