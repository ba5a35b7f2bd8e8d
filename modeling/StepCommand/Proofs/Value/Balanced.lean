import StepCommand.Proofs.Text.Bracket
import StepCommand.Step.Json

namespace StepCommand

namespace Text

variable {cs : List Char}

theorem delimiters_eq_nil_iff : delimiters cs = [] ↔ ∀ c ∈ cs, Delimiter.ofCode? c.toNat = none :=
  List.filterMap_eq_nil_iff

theorem ofCode?_of_isDigit {c : Char} (h : c.isDigit = true) :
    Delimiter.ofCode? c.toNat = none := by
  by_contra hne
  have hmem := Delimiter.mem_codes hne
  rw [Char.isDigit, Bool.and_eq_true, decide_eq_true_eq, decide_eq_true_eq] at h
  have hlow : 48 ≤ c.toNat := h.1
  have hhigh : c.toNat ≤ 57 := h.2
  simp only [Delimiter.codes, List.mem_cons, List.not_mem_nil, or_false] at hmem
  omega

theorem delimiters_toDigits (n : Nat) : delimiters (Nat.toDigits 10 n) = [] :=
  delimiters_eq_nil_iff.mpr fun _ hc =>
    ofCode?_of_isDigit (Nat.isDigit_of_mem_toDigits (by decide) (by decide) hc)

theorem isBalanced_toString_nat (n : Nat) : IsBalanced n.repr := by
  refine isBalanced_of_delimiters ?_
  rw [Nat.repr_eq_ofList_toDigits, String.toList_ofList, delimiters_toDigits]

theorem isBalanced_toString_int (n : Int) : IsBalanced (toString n) := by
  cases n with
  | ofNat n => exact isBalanced_toString_nat n
  | negSucc n =>
      have hminus : IsBalanced "-" := by decide
      exact hminus.append (isBalanced_toString_nat (n + 1))

theorem delimiters_zeros (n : Int) : delimiters (Double.zeros n) = [] := by
  refine delimiters_eq_nil_iff.mpr fun c hc => ?_
  obtain rfl := List.eq_of_mem_replicate hc
  rfl

theorem delimiters_sublist {ds : List Char} (h : delimiters ds = []) (hsub : cs.Sublist ds) :
    delimiters cs = [] :=
  delimiters_eq_nil_iff.mpr fun c hc => delimiters_eq_nil_iff.mp h c (hsub.subset hc)

theorem delimiters_positional {digits : List Char} (h : delimiters digits = []) (p : Int) :
    delimiters (Double.positional digits p) = [] := by
  have hpoint : delimiters ['.', '0'] = [] := rfl
  have hzero : delimiters ['0', '.'] = [] := rfl
  have hcons : ∀ cs, delimiters ('.' :: cs) = delimiters cs := fun _ => rfl
  unfold Double.positional
  split
  · rw [delimiters_append, delimiters_append, h, delimiters_zeros, hpoint]
    rfl
  · dsimp only
    split
    · rw [delimiters_append, hcons, delimiters_sublist h (List.take_sublist _ _),
        delimiters_sublist h (List.drop_sublist _ _)]
      rfl
    · rw [delimiters_append, delimiters_append, hzero, delimiters_zeros, h]
      rfl

theorem delimiters_scientific {digits : List Char} (h : delimiters digits = []) (p : Int) :
    delimiters (Double.scientific digits p) = [] := by
  have htail : delimiters digits.tail = [] := delimiters_sublist h (List.tail_sublist _)
  have hsign : ∀ b : Bool, delimiters ['e', if b then '+' else '-'] = [] := by decide
  have hcons : ∀ cs, delimiters ('.' :: cs) = delimiters cs := fun _ => rfl
  unfold Double.scientific
  dsimp only
  rw [delimiters_append, delimiters_append, delimiters_append,
    delimiters_sublist h (List.take_sublist _ _), delimiters_toDigits]
  have hexponent := hsign (decide (0 ≤ (digits.length : Int) + p - 1))
  simp only [decide_eq_true_eq] at hexponent
  rw [hexponent]
  cases htails : digits.tail with
  | nil => rfl
  | cons c rest =>
      rw [htails] at htail
      simp [hcons, htail]

theorem isBalanced_double (x : Double) : IsBalanced x.text := by
  have hminus : ∀ cs, delimiters ('-' :: cs) = delimiters cs := fun _ => rfl
  have hsigned : ∀ cs, delimiters cs = [] → delimiters (x.signed cs).toList = [] := by
    intro cs h
    rw [Double.signed, String.toList_ofList]
    split
    · rw [hminus, h]
    · exact h
  refine isBalanced_of_delimiters (hsigned _ ?_)
  split
  · exact delimiters_positional (delimiters_toDigits _) _
  · exact delimiters_scientific (delimiters_toDigits _) _

end Text

namespace Value

mutual

-- The texts in a value and the keys of its mappings.
def strings : Value → List String
  | null => []
  | bool _ => []
  | int _ => []
  | float _ => []
  | text s => [s]
  | list items => stringsOfItems items
  | object entries => stringsOfEntries entries

def stringsOfItems : List Value → List String
  | [] => []
  | item :: rest => item.strings ++ stringsOfItems rest

def stringsOfEntries : List (String × Value) → List String
  | [] => []
  | (key, value) :: rest => key :: (value.strings ++ stringsOfEntries rest)

end

def IsBalanced (v : Value) : Prop := ∀ s ∈ v.strings, Text.IsBalanced s

instance (v : Value) : Decidable v.IsBalanced :=
  inferInstanceAs (Decidable (∀ s ∈ v.strings, Text.IsBalanced s))

theorem stringsOfItems_eq (items : List Value) : stringsOfItems items = items.flatMap strings := by
  induction items with
  | nil => rfl
  | cons item rest ih => rw [stringsOfItems, ih, List.flatMap_cons]

theorem stringsOfEntries_eq (entries : List (String × Value)) :
    stringsOfEntries entries = entries.flatMap fun entry => entry.1 :: entry.2.strings := by
  induction entries with
  | nil => rfl
  | cons entry rest ih => rw [stringsOfEntries, ih, List.flatMap_cons, List.cons_append]

@[simp] theorem isBalanced_null : null.IsBalanced := by simp [IsBalanced, strings]

@[simp] theorem isBalanced_bool (b : Bool) : (bool b).IsBalanced := by simp [IsBalanced, strings]

@[simp] theorem isBalanced_int (n : Int) : (int n).IsBalanced := by simp [IsBalanced, strings]

@[simp] theorem isBalanced_float (x : Double) : (float x).IsBalanced := by
  simp [IsBalanced, strings]

@[simp] theorem isBalanced_text (s : String) : (text s).IsBalanced ↔ Text.IsBalanced s := by
  simp [IsBalanced, strings]

@[simp] theorem isBalanced_list (items : List Value) :
    (list items).IsBalanced ↔ ∀ item ∈ items, item.IsBalanced := by
  simp only [IsBalanced, strings, stringsOfItems_eq, List.mem_flatMap]
  exact ⟨fun h item hi s hs => h s ⟨item, hi, hs⟩, fun h s ⟨item, hi, hs⟩ => h item hi s hs⟩

@[simp] theorem isBalanced_object (entries : List (String × Value)) :
    (object entries).IsBalanced ↔
      ∀ entry ∈ entries, Text.IsBalanced entry.1 ∧ entry.2.IsBalanced := by
  simp only [IsBalanced, strings, stringsOfEntries_eq, List.mem_flatMap, List.mem_cons]
  constructor
  · exact fun h entry he => ⟨h _ ⟨entry, he, .inl rfl⟩, fun s hs => h s ⟨entry, he, .inr hs⟩⟩
  · rintro h s ⟨entry, he, rfl | hs⟩
    · exact (h entry he).1
    · exact (h entry he).2 s hs

theorem isBalanced_ofTexts (texts : List String) :
    (ofTexts texts).IsBalanced ↔ ∀ s ∈ texts, Text.IsBalanced s := by
  simp [ofTexts]

mutual

theorem IsBalanced.plain : ∀ {v : Value}, v.IsBalanced → Text.IsBalanced v.plain
  | null, _ => by
      rw [Value.plain]
      decide
  | bool b, _ => by
      rw [Value.plain]
      cases b <;> decide
  | int n, _ => by
      rw [Value.plain]
      exact Text.isBalanced_toString_int n
  | float x, _ => by
      rw [Value.plain]
      exact Text.isBalanced_double x
  | text s, h => by
      rw [Value.plain]
      exact (isBalanced_text s).mp h
  | list items, h => by
      rw [Value.plain]
      have hitems := plainItems_balanced ((isBalanced_list items).mp h)
      exact Text.IsBalanced.group .square rfl rfl (.intercalate (by decide) hitems)
  | object entries, h => by
      rw [Value.plain]
      have hentries := plainEntries_balanced ((isBalanced_object entries).mp h)
      have hmap : Text.delimiters "map[".toList = [.opening .square] := by decide
      refine Text.IsBalanced.group .square hmap rfl (.intercalate (by decide) ?_)
      intro s hs
      obtain ⟨entry, he, rfl⟩ := List.mem_map.mp hs
      obtain ⟨hkey, hvalue⟩ := hentries entry (List.mem_mergeSort.mp he)
      have hcolon : Text.IsBalanced ":" := by decide
      exact (hkey.append hcolon).append hvalue

theorem plainItems_balanced : ∀ {items : List Value}, (∀ item ∈ items, item.IsBalanced) →
    ∀ s ∈ plainItems items, Text.IsBalanced s
  | [], _, _, hs => by simp [plainItems] at hs
  | item :: rest, h, s, hs => by
      obtain ⟨hitem, hrest⟩ := List.forall_mem_cons.mp h
      rw [plainItems] at hs
      rcases List.mem_cons.mp hs with rfl | hs
      · exact hitem.plain
      · exact plainItems_balanced hrest s hs

theorem plainEntries_balanced : ∀ {entries : List (String × Value)},
    (∀ entry ∈ entries, Text.IsBalanced entry.1 ∧ entry.2.IsBalanced) →
    ∀ entry ∈ plainEntries entries, Text.IsBalanced entry.1 ∧ Text.IsBalanced entry.2
  | [], _, _, he => by simp [plainEntries] at he
  | (key, value) :: rest, h, entry, he => by
      obtain ⟨⟨hkey, hvalue⟩, hrest⟩ := List.forall_mem_cons.mp h
      rw [plainEntries] at he
      rcases List.mem_cons.mp he with rfl | he
      · exact ⟨hkey, hvalue.plain⟩
      · exact plainEntries_balanced hrest entry he

end

end Value

end StepCommand
