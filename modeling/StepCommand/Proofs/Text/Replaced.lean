import Mathlib.Data.List.Forall2
import Mathlib.Data.List.Infix
import StepCommand.Text.Edit

namespace StepCommand.Text

variable {c p : Char} {ps pattern replacement word s t : List Char} {skip : Nat}

-- A text from left to right: where the pattern is found, the replacement stands in its place.
inductive Replaced (pattern replacement : List Char) : List Char → List Char → Prop where
  | nil : Replaced pattern replacement [] []
  | found {s t : List Char} (rest : Replaced pattern replacement s t) :
      Replaced pattern replacement (pattern ++ s) (replacement ++ t)
  | other {c : Char} {s t : List Char} (hc : ¬ pattern <+: c :: s)
      (rest : Replaced pattern replacement s t) : Replaced pattern replacement (c :: s) (c :: t)

theorem replaced_replaceFrom (p : Char) (ps replacement : List Char) (skip : Nat)
    (s : List Char) :
    Replaced (p :: ps) replacement (s.drop skip) (replaceFrom (p :: ps) replacement skip s) := by
  induction s generalizing skip with
  | nil =>
      rw [List.drop_nil]
      exact .nil
  | cons first rest ih =>
      cases skip with
      | succ skip => exact ih skip
      | zero =>
          rw [List.drop_zero, replaceFrom]
          split
          next hmatch =>
            obtain ⟨more, hmore⟩ := List.isPrefixOf_iff_prefix.mp hmatch
            rw [List.cons_append] at hmore
            obtain ⟨rfl, rfl⟩ := List.cons_eq_cons.mp hmore
            have hrest := ih ps.length
            rw [List.drop_left] at hrest
            exact .found hrest
          next hmatch =>
            have hother : ¬ p :: ps <+: first :: rest := fun h =>
              hmatch (List.isPrefixOf_iff_prefix.mpr h)
            exact .other hother (ih 0)

theorem replaced_replaceAll {pattern : String} (replacement s : String) (h : pattern ≠ "") :
    Replaced pattern.toList replacement.toList s.toList
      (replaceAll pattern replacement s).toList := by
  rw [replaceAll, String.toList_ofList]
  cases hp : pattern.toList with
  | nil => exact absurd (String.toList_eq_nil_iff.mp hp) h
  | cons p ps => exact replaced_replaceFrom p ps replacement.toList 0 s.toList

-- Two words that share no place of a text: neither occurs in the other, and the end of neither is
-- the beginning of the other.
structure Apart (u v : List Char) : Prop where
  left : ¬ u <:+: v
  right : ¬ v <:+: u
  leftEnd : ∀ x ∈ u.tails, x <+: v → x = []
  rightEnd : ∀ x ∈ v.tails, x <+: u → x = []

instance (u v : List Char) : Decidable (Apart u v) :=
  decidable_of_iff (¬ u <:+: v ∧ ¬ v <:+: u ∧ (∀ x ∈ u.tails, x <+: v → x = []) ∧
      ∀ x ∈ v.tails, x <+: u → x = [])
    ⟨fun ⟨hl, hr, hle, hre⟩ => ⟨hl, hr, hle, hre⟩, fun h => ⟨h.left, h.right, h.leftEnd, h.rightEnd⟩⟩

namespace Replaced

-- Characters stand opposite to each other if those of the pattern and the replacement do.
theorem forall₂ {R : Char → Char → Prop} (hrefl : ∀ c, R c c)
    (hR : List.Forall₂ R pattern replacement) (h : Replaced pattern replacement s t) :
    List.Forall₂ R s t := by
  induction h with
  | nil => exact .nil
  | found _ ih => exact List.rel_append hR ih
  | other _ _ ih => exact .cons (hrefl _) ih

theorem eq_of_notInfix (h : Replaced pattern replacement s t) (hs : ¬ pattern <:+: s) : t = s := by
  induction h with
  | nil => rfl
  | found _ _ => exact absurd (List.prefix_append _ _).isInfix hs
  | other _ _ ih => rw [ih fun hin => hs (List.infix_cons_iff.mpr (.inr hin))]

-- The beginning of a word that is apart from the replacement is not taken from it.
theorem prefix_of_apart (h : Replaced pattern replacement s t) (hapart : Apart replacement word)
    {x : List Char} (hx : x <:+ word) (hbegins : x <+: t) : x <+: s := by
  induction h generalizing x with
  | nil => exact hbegins
  | @found s t _ _ =>
      obtain hshort | hlong := List.prefix_or_prefix_of_prefix hbegins (List.prefix_append _ _)
      · rw [hapart.rightEnd x ((List.mem_tails x word).mpr hx) hshort]
        exact List.nil_prefix
      · exact absurd (hlong.isInfix.trans hx.isInfix) hapart.left
  | @other c s t _ _ ih =>
      obtain rfl | ⟨rest, rfl, hrest⟩ := List.prefix_cons_iff.mp hbegins
      · exact List.nil_prefix
      · have hsuffix : rest <:+ word := (List.suffix_cons c rest).trans hx
        exact List.cons_prefix_cons.mpr ⟨rfl, ih hsuffix hrest⟩

-- A word that is apart from the replacement occurs only where it has occurred before, and the
-- pattern itself no longer does.
theorem notInfix_of_apart (h : Replaced pattern replacement s t) (hapart : Apart replacement word)
    (hs : word = pattern ∨ ¬ word <:+: s) : ¬ word <:+: t := by
  induction h with
  | nil =>
      intro hin
      rw [List.infix_nil] at hin
      exact hapart.right (hin ▸ List.nil_infix)
  | @found s t _ ih =>
      have hrest : ¬ word <:+: t := by
        refine ih (hs.imp_right fun hs hin => hs ?_)
        exact hin.trans (List.suffix_append pattern s).isInfix
      intro hin
      obtain hnew | hold | ⟨x, y, rfl, hx, hy⟩ := List.infix_append_iff.mp hin
      · exact hapart.right hnew
      · exact hrest hold
      · -- a word that begins in the replacement has an end of it as its beginning
        have hempty : x = [] :=
          hapart.leftEnd x ((List.mem_tails x _).mpr hx) (List.prefix_append x y)
        rw [hempty, List.nil_append] at hrest
        exact hrest hy.isInfix
  | @other c s t hc rest ih =>
      have hrest : ¬ word <:+: t :=
        ih (hs.imp_right fun hs hin => hs (List.infix_cons_iff.mpr (.inr hin)))
      intro hin
      obtain hhere | hlater := List.infix_cons_iff.mp hin
      · have hbefore : word <+: c :: s :=
          (Replaced.other hc rest).prefix_of_apart hapart List.suffix_rfl hhere
        obtain rfl | hs := hs
        · exact hc hbefore
        · exact hs hbefore.isInfix
      · exact hrest hlater

end Replaced

end StepCommand.Text
