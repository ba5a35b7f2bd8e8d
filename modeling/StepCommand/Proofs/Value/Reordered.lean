import StepCommand.Literal
import StepCommand.Proofs.Value.Keys

namespace StepCommand

namespace Value

variable {value other : Value} {items others : List Value}
  {entries between : List (String × Value)}

mutual

-- The entries of a mapping, each under a key of its own, may stand in another order, and so may
-- those of the mappings in them.
inductive Reordered : Value → Value → Prop where
  | null : Reordered null null
  | bool (b : Bool) : Reordered (bool b) (bool b)
  | int (n : Int) : Reordered (int n) (int n)
  | float (x : Double) : Reordered (float x) (float x)
  | text (s : String) : Reordered (text s) (text s)
  | list {items others : List Value} (h : ReorderedItems items others) :
      Reordered (list items) (list others)
  | object {entries between others : List (String × Value)} (hkeys : (entries.map Prod.fst).Nodup)
      (h : ReorderedEntries entries between) (hperm : between.Perm others) :
      Reordered (object entries) (object others)

inductive ReorderedItems : List Value → List Value → Prop where
  | nil : ReorderedItems [] []
  | cons {value other : Value} {items others : List Value} (first : Reordered value other)
      (rest : ReorderedItems items others) : ReorderedItems (value :: items) (other :: others)

-- The entries themselves keep their places here.
inductive ReorderedEntries : List (String × Value) → List (String × Value) → Prop where
  | nil : ReorderedEntries [] []
  | cons {key : String} {value other : Value} {entries between : List (String × Value)}
      (first : Reordered value other) (rest : ReorderedEntries entries between) :
      ReorderedEntries ((key, value) :: entries) ((key, other) :: between)

end

theorem plainItems_eq (items : List Value) : plainItems items = items.map plain := by
  induction items with
  | nil => rfl
  | cons item rest ih => rw [plainItems, ih, List.map_cons]

theorem plainEntries_eq (entries : List (String × Value)) :
    plainEntries entries = entries.map fun entry => (entry.1, entry.2.plain) := by
  induction entries with
  | nil => rfl
  | cons entry rest ih => rw [plainEntries, ih, List.map_cons]

theorem map_fst_plainEntries (entries : List (String × Value)) :
    (plainEntries entries).map Prod.fst = entries.map Prod.fst := by
  rw [plainEntries_eq, List.map_map]
  rfl

mutual

theorem plain_of_reordered : ∀ {value other : Value}, Reordered value other →
    value.plain = other.plain
  | _, _, .null => rfl
  | _, _, .bool _ => rfl
  | _, _, .int _ => rfl
  | _, _, .float _ => rfl
  | _, _, .text _ => rfl
  | _, _, .list h => by rw [plain, plain, plainItems_of_reordered h]
  | _, _, @Reordered.object entries between others hkeys h hperm => by
      have hentries : (plainEntries entries).Perm (plainEntries others) := by
        rw [plainEntries_of_reordered h, plainEntries_eq, plainEntries_eq]
        exact hperm.map _
      have hdistinct : ((plainEntries entries).map Prod.fst).Nodup := by
        rwa [map_fst_plainEntries]
      rw [plain, plain, mergeSort_byKey_eq_of_perm hdistinct hentries]

theorem plainItems_of_reordered : ∀ {items others : List Value}, ReorderedItems items others →
    plainItems items = plainItems others
  | _, _, .nil => rfl
  | _, _, .cons first rest => by
      rw [plainItems, plainItems, plain_of_reordered first, plainItems_of_reordered rest]

theorem plainEntries_of_reordered : ∀ {entries between : List (String × Value)},
    ReorderedEntries entries between → plainEntries entries = plainEntries between
  | _, _, .nil => rfl
  | _, _, .cons first rest => by
      rw [plainEntries, plainEntries, plain_of_reordered first, plainEntries_of_reordered rest]

end

-- The entries of a mapping come in its text with their keys ascending.
theorem plain_object (entries : List (String × Value)) :
    (object entries).plain = "map[" ++ " ".intercalate
      ((entries.mergeSort byKey).map fun entry => entry.1 ++ ":" ++ entry.2.plain) ++ "]" := by
  have hsorted : (entries.mergeSort byKey).map (fun entry => (entry.1, entry.2.plain)) =
      (plainEntries entries).mergeSort byKey := by
    rw [plainEntries_eq]
    exact List.map_mergeSort fun _ _ _ _ => rfl
  rw [plain, ← hsorted, List.map_map]
  rfl

end Value

namespace Literal

open Value (Reordered ReorderedItems)

variable {value other : Value} {items others : List Value}

theorem truth_of_reordered (h : Reordered value other) : truth value = truth other := by
  cases h <;> rfl

theorem itemTexts_of_reordered (h : Reordered value other) :
    itemTexts value = itemTexts other := by
  have hplain := Value.plain_of_reordered h
  cases h with
  | list hitems =>
      rw [itemTexts, itemTexts, ← Value.plainItems_eq, ← Value.plainItems_eq,
        Value.plainItems_of_reordered hitems]
  | object _ _ _ => exact congrArg (fun text => [text]) hplain
  | _ => rfl

theorem declared_of_reordered (h : Reordered value other) (kind : ParameterType) :
    declared value kind = declared other kind := by
  have hplain := Value.plain_of_reordered h
  cases kind with
  | bool => rw [declared, declared, truth_of_reordered h]
  | int => rw [declared, declared, hplain]
  | string => rw [declared, declared, hplain]
  | stringList => rw [declared, declared, itemTexts_of_reordered h]

end Literal

-- The order in which the entries of mappings are stored shows in no text and in no default, and in
-- the text of a mapping the keys ascend.
theorem Value.texts_of_reordered {value other : Value} (h : Reordered value other) :
    value.plain = other.plain ∧
      (∀ name kind,
        Literal.ofDefault name kind (some value) = Literal.ofDefault name kind (some other)) ∧
      ∀ entries : List (String × Value), (entries.map Prod.fst).Nodup →
        ∃ sorted : List (String × Value), sorted.Perm entries ∧
          (sorted.map Prod.fst).Pairwise (· < ·) ∧
          (object entries).plain = "map[" ++ " ".intercalate
            (sorted.map fun entry => entry.1 ++ ":" ++ entry.2.plain) ++ "]" := by
  refine ⟨plain_of_reordered h, fun _ kind => Literal.declared_of_reordered h kind, ?_⟩
  intro entries hkeys
  exact ⟨entries.mergeSort byKey, List.mergeSort_perm _ _,
    List.pairwise_map.mpr (pairwise_byKey hkeys), plain_object entries⟩

-- A mapping in another order inside one in another order, in a list.
theorem Value.texts_of_reordered_nested :
    let inner := [("y", int 1), ("x", text "s")]
    let value := list [bool true, object [("b", object inner), ("a", null)]]
    let other := list [bool true, object [("a", null), ("b", object inner.reverse)]]
    Reordered value other ∧ value.plain = other.plain ∧
      value.plain = "[true map[a:<nil> b:map[x:s y:1]]]" ∧
      Literal.ofDefault "tags" .stringList (some value) =
        Literal.ofDefault "tags" .stringList (some other) ∧
      ((inner.map Prod.fst).Nodup ∧ ∃ sorted : List (String × Value), sorted.Perm inner ∧
        (sorted.map Prod.fst).Pairwise (· < ·) ∧
        (object inner).plain = "map[" ++ " ".intercalate
          (sorted.map fun entry => entry.1 ++ ":" ++ entry.2.plain) ++ "]") := by
  intro inner value other
  have hinner : Reordered (object inner) (object inner.reverse) :=
    .object (by decide) (.cons (.int 1) (.cons (.text "s") .nil)) (List.reverse_perm _).symm
  have h : Reordered value other :=
    .list (.cons (.bool true) (.cons (.object (by decide)
      (.cons hinner (.cons .null .nil)) (List.Perm.swap _ _ _)) .nil))
  obtain ⟨hplain, hdefault, hsorted⟩ := texts_of_reordered h
  have hkeys : (inner.map Prod.fst).Nodup := by decide
  have htext : value.plain = "[true map[a:<nil> b:map[x:s y:1]]]" := by
    simp [value, inner, plain, plainItems, plainEntries, List.mergeSort, byKey]
    rfl
  exact ⟨h, hplain, htext, hdefault "tags" .stringList, hkeys, hsorted inner hkeys⟩

end StepCommand
