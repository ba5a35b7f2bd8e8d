import Mathlib.Data.List.Forall2

namespace StepCommand

variable {ε α β : Type} {e : ε} {f : α → Except ε β} {xs : List α}

theorem Except.ok_bind (a : α) : (Except.ok a >>= f) = f a := rfl

theorem Except.bind_ok_iff {x : Except ε α} {y : β} :
    (x >>= f) = .ok y ↔ ∃ a, x = .ok a ∧ f a = .ok y := by
  cases x <;> simp [bind, Except.bind]

theorem Except.bind_error_iff {x : Except ε α} :
    (x >>= f) = .error e ↔ x = .error e ∨ ∃ a, x = .ok a ∧ f a = .error e := by
  cases x <;> simp [bind, Except.bind]

theorem Except.exists_ok_iff {x : Except ε α} : (∃ a, x = .ok a) ↔ ∀ e, x ≠ .error e := by
  cases x <;> simp

theorem Except.exists_ok_of_any {x : Except ε α} {p : α → Bool} (h : x.toOption.any p = true) :
    ∃ a, x = .ok a ∧ p a = true := by
  cases x with
  | error e => cases h
  | ok a => exact ⟨a, rfl, h⟩

theorem Except.mapM_ok_iff {ys : List β} :
    xs.mapM f = .ok ys ↔ List.Forall₂ (fun x y => f x = .ok y) xs ys := by
  induction xs generalizing ys with
  | nil => simp [pure, Except.pure, eq_comm]
  | cons x rest ih =>
      simp only [List.mapM_cons, Except.bind_ok_iff, ih, pure, Except.pure, Except.ok.injEq]
      constructor
      · rintro ⟨y, hy, others, hrest, rfl⟩
        exact .cons hy hrest
      · intro h
        cases h with
        | cons hy hrest => exact ⟨_, hy, _, hrest, rfl⟩

-- `fails` tells which computations have no result.
theorem Except.mapM_error_iff {fails : α → Bool}
    (hfails : ∀ x, fails x = true ↔ ∃ e, f x = .error e) :
    xs.mapM f = .error e ↔ ∃ x, xs.find? fails = some x ∧ f x = .error e := by
  induction xs with
  | nil => simp [pure, Except.pure]
  | cons x rest ih =>
      simp only [List.mapM_cons, Except.bind_error_iff, ih, pure, Except.pure, reduceCtorEq,
        and_false, exists_false, or_false]
      cases hx : f x with
      | error cause =>
          have hfirst : fails x = true := (hfails x).mpr ⟨cause, hx⟩
          simp [hfirst, hx]
      | ok y =>
          have hfirst : fails x = false := by
            rw [Bool.eq_false_iff]
            intro h
            obtain ⟨cause, herror⟩ := (hfails x).mp h
            rw [hx] at herror
            cases herror
          simp [hfirst]

end StepCommand
