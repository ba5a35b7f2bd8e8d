import Mathlib
import StepCommand.Proofs.Name
import StepCommand.Proofs.Text.Replaced

namespace StepCommand.Name

open Text (Apart replaceAll replaced_replaceAll)

variable {c d e : Char} {name : String} {table : List (String × String)}

-- A lower case letter, of ASCII, may be written as its capital.
def IsRaised (c d : Char) : Prop := d = c ∨ c.isLower = true ∧ d = c.toUpper

instance (c d : Char) : Decidable (IsRaised c d) := inferInstanceAs (Decidable (_ ∨ _))

theorem IsRaised.refl (c : Char) : IsRaised c c := .inl rfl

theorem IsRaised.trans (h : IsRaised c d) (h' : IsRaised d e) : IsRaised c e := by
  obtain rfl | ⟨hlower, rfl⟩ := h
  · exact h'
  · obtain rfl | ⟨hcapital, rfl⟩ := h'
    · exact .inr ⟨hlower, rfl⟩
    · rw [Char.isLower_toUpper_eq_false] at hcapital
      cases hcapital

theorem forall₂_trans {R : Char → Char → Prop} (hR : ∀ {c d e}, R c d → R d e → R c e)
    {s t u : List Char} (h : List.Forall₂ R s t) (h' : List.Forall₂ R t u) :
    List.Forall₂ R s u := by
  induction h generalizing u with
  | nil => exact h'
  | cons hfirst _ ih =>
      cases h' with
      | cons hsecond hrest => exact .cons (hR hfirst hsecond) (ih hrest)

theorem raised_capitalizeAcronyms (name : String) :
    List.Forall₂ IsRaised name.toList (capitalizeAcronyms name).toList := by
  have hacronyms : ∀ entry ∈ acronyms,
      entry.1 ≠ "" ∧ List.Forall₂ IsRaised entry.1.toList entry.2.toList := by
    decide +kernel
  refine capitalizeAcronyms_of_replaceAll
    (P := fun s => List.Forall₂ IsRaised name.toList s.toList) ?_
    (List.forall₂_same.mpr fun c _ => .refl c)
  intro entry hentry s hs
  obtain ⟨hne, hraised⟩ := hacronyms entry hentry
  have hreplaced := (replaced_replaceAll entry.2 s hne).forall₂ IsRaised.refl hraised
  exact forall₂_trans (R := IsRaised) IsRaised.trans hs hreplaced

-- A table of replacements that may be gone through once: no replacement makes room for the word
-- that it stands for, or for one before it.
structure IsOrdered (table : List (String × String)) : Prop where
  nonempty : ∀ entry ∈ table, entry.1 ≠ ""
  own : ∀ entry ∈ table, Apart entry.2.toList entry.1.toList
  later : table.Pairwise fun earlier later => Apart later.2.toList earlier.1.toList

theorem isOrdered_acronyms : IsOrdered acronyms := ⟨by decide, by decide +kernel, by decide +kernel⟩

theorem notInfix_foldl (h : IsOrdered table) (name : String) :
    ∀ entry ∈ table, ¬ entry.1.toList <:+:
      (table.foldl (fun s entry => replaceAll entry.1 entry.2 s) name).toList := by
  induction table generalizing name with
  | nil => simp
  | cons first rest ih =>
      obtain ⟨hne, hneRest⟩ := List.forall_mem_cons.mp h.nonempty
      obtain ⟨hown, hownRest⟩ := List.forall_mem_cons.mp h.own
      obtain ⟨hlater, hlaterRest⟩ := List.pairwise_cons.mp h.later
      refine List.forall_mem_cons.mpr ⟨?_, ih ⟨hneRest, hownRest, hlaterRest⟩ _⟩
      -- the first replacement removes its word, and the others do not bring it back
      refine List.foldlRecOn (motive := fun s : String => ¬ first.1.toList <:+: s.toList) rest _
        ((replaced_replaceAll _ name hne).notInfix_of_apart hown (.inl rfl)) ?_
      intro s hs entry hentry
      exact (replaced_replaceAll _ s (hneRest entry hentry)).notInfix_of_apart
        (hlater entry hentry) (.inr hs)

theorem capitalizeAcronyms_of_notInfix (h : ∀ entry ∈ acronyms, ¬ entry.1.toList <:+: name.toList) :
    capitalizeAcronyms name = name := by
  refine capitalizeAcronyms_of_replaceAll (P := fun s => s = name) ?_ rfl
  rintro entry hentry s rfl
  have hne := isOrdered_acronyms.nonempty entry hentry
  exact String.toList_inj.mp ((replaced_replaceAll _ _ hne).eq_of_notInfix (h entry hentry))

-- Only letters are raised, no acronym is left in lower case, and a name is left as it is exactly if
-- there has been none.
theorem capitalizeAcronyms_normal (name : String) :
    (capitalizeAcronyms name).length = name.length ∧
      List.Forall₂ IsRaised name.toList (capitalizeAcronyms name).toList ∧
      (∀ word ∈ ["Api", "api", "Url", "Id", "Json", "json", "Tls"],
        ¬ word.toList <:+: (capitalizeAcronyms name).toList) ∧
      capitalizeAcronyms (capitalizeAcronyms name) = capitalizeAcronyms name ∧
      (capitalizeAcronyms name = name ↔
        ∀ word ∈ ["Api", "api", "Url", "Id", "Json", "json", "Tls"],
          ¬ word.toList <:+: name.toList) := by
  have hwords : ["Api", "api", "Url", "Id", "Json", "json", "Tls"] = acronyms.map Prod.fst := rfl
  have hraised := raised_capitalizeAcronyms name
  have hnone : ∀ entry ∈ acronyms, ¬ entry.1.toList <:+: (capitalizeAcronyms name).toList :=
    notInfix_foldl isOrdered_acronyms name
  rw [hwords]
  simp only [List.forall_mem_map]
  refine ⟨?_, hraised, hnone, capitalizeAcronyms_of_notInfix hnone, ?_,
    capitalizeAcronyms_of_notInfix⟩
  · rw [← String.length_toList, ← String.length_toList, hraised.length_eq]
  · intro h
    rwa [h] at hnone

-- The first acronym brings the second about.
theorem capitalizeAcronyms_normal_nested :
    let name := "apidOfTlsJson"
    "Id" ∈ ["Api", "api", "Url", "Id", "Json", "json", "Tls"] ∧
      ¬ "Id".toList <:+: name.toList ∧ "Id".toList <:+: (replaceAll "api" "API" name).toList ∧
      capitalizeAcronyms name = "APIDOfTLSJSON" ∧
      ¬ "Id".toList <:+: (capitalizeAcronyms name).toList := by
  intro name
  have hmem : "Id" ∈ ["Api", "api", "Url", "Id", "Json", "json", "Tls"] := by decide
  obtain ⟨-, -, hnone, -⟩ := capitalizeAcronyms_normal name
  exact ⟨hmem, by decide +kernel, by decide +kernel, by decide +kernel, hnone "Id" hmem⟩

end StepCommand.Name
