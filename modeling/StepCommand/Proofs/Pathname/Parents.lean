import StepCommand.Proofs.Pathname

namespace StepCommand.Pathname

variable {path name : String} {l : List String} {k : Nat}

theorem names_intercalate (h : ∀ name ∈ l, IsName name) : names ("/".intercalate l) = l := by
  induction l with
  | nil => rfl
  | cons first rest ih =>
      have hfirst := names_of_isName (h first List.mem_cons_self)
      cases rest with
      | nil => simpa using hfirst
      | cons second more =>
          rw [String.intercalate_cons_cons, names_append_slash, hfirst,
            ih fun name hmem => h name (List.mem_cons_of_mem _ hmem)]
          rfl

-- Single dots are left out, and nothing else.
theorem filter_steps (path : String) :
    (steps path).filter (· ≠ ".") = (names path).filter (· ≠ ".") := by
  unfold steps
  split
  next hn => simp [hn]
  next first rest hn =>
    rw [hn]
    split_ifs with hd
    · simp [hd.1]
    · by_cases hf : first = "." <;> simp [hf]

theorem mem_names_of_mem_steps (h : name ∈ steps path) : name ∈ names path := by
  unfold steps at h
  split at h
  next => cases h
  next first rest hn =>
    rw [hn]
    split at h
    · exact List.mem_cons_of_mem _ (List.mem_filter.mp h).1
    · rcases List.mem_cons.mp h with rfl | h
      · exact List.mem_cons_self
      · exact List.mem_cons_of_mem _ (List.mem_filter.mp h).1

theorem isName_of_mem_steps (h : name ∈ steps path) : IsName name :=
  isName_of_mem_names (mem_names_of_mem_steps h)

theorem ne_dot_of_mem_drop_steps (hk : k ≠ 0) (h : name ∈ (steps path).drop k) : name ≠ "." := by
  obtain ⟨k, rfl⟩ := Nat.exists_eq_succ_of_ne_zero hk
  unfold steps at h
  split at h
  next => simp at h
  next first rest hn =>
    split at h
    · simpa using (List.mem_filter.mp (List.mem_of_mem_drop h)).2
    · rw [List.drop_succ_cons] at h
      simpa using (List.mem_filter.mp (List.mem_of_mem_drop h)).2

theorem names_ne_nil (h : steps path ≠ []) : names path ≠ [] := by
  intro hn
  exact h (by simp [steps, hn])

-- Whatever part of the steps is taken, it is gone before the last name.
theorem filter_dropLast_names (hk : k ≠ 0) (hlt : k < (steps path).length) :
    ∃ more, ((names path).dropLast).filter (· ≠ ".") =
      ((steps path).take k).filter (· ≠ ".") ++ more := by
  have hdrop : (steps path).drop k ≠ [] := by
    simpa using hlt
  have hself : ((steps path).drop k).filter (· ≠ ".") = (steps path).drop k :=
    List.filter_eq_self.mpr fun name hmem => by
      simpa using ne_dot_of_mem_drop_steps hk hmem
  have hsteps : (names path).filter (· ≠ ".") =
      ((steps path).take k).filter (· ≠ ".") ++ (steps path).drop k := by
    rw [← filter_steps, ← hself, ← List.filter_append, List.take_append_drop]
  have hne : names path ≠ [] := names_ne_nil fun h => by simp [h] at hlt
  rw [← List.dropLast_concat_getLast hne, List.filter_append] at hsteps
  by_cases hlast : (names path).getLast hne = "."
  · exact ⟨_, by simpa [hlast] using hsteps⟩
  · rw [← List.dropLast_concat_getLast hdrop, ← List.append_assoc] at hsteps
    have hsingle : [(names path).getLast hne].filter (· ≠ ".") = [(names path).getLast hne] := by
      simp [hlast]
    rw [hsingle] at hsteps
    exact ⟨_, List.append_inj_left' hsteps rfl⟩

-- The directory that the first names lead to.
def ancestor (path : String) (count : Nat) : String :=
  (if isAbsolute path then "/" else "") ++ "/".intercalate ((steps path).take count)

-- The innermost comes first.
def ancestors (path : String) : Nat → List String
  | 0 => []
  | count + 1 => ancestor path (count + 1) :: ancestors path count

theorem parents_eq (path : String) :
    parents path = ancestors path ((steps path).length - 1) := by
  have h : ∀ count, (List.range (count + 1)).tail.reverse.map (ancestor path) =
      ancestors path count := by
    intro count
    induction count with
    | zero => rfl
    | succ count ih =>
        rw [List.range_succ, List.tail_append_of_ne_nil (by simp), List.reverse_append]
        simp only [List.reverse_singleton, List.singleton_append, List.map_cons, ih, ancestors]
  unfold parents
  cases hl : (steps path).length with
  | zero => rfl
  | succ count => exact h count

theorem eq_of_ancestors_eq_append {front outer : List String} {inner : String}
    (h : ancestors path k = front ++ inner :: outer) :
    outer.length + 1 ≤ k ∧ inner = ancestor path (outer.length + 1) ∧
      outer = ancestors path outer.length := by
  induction k generalizing front with
  | zero => simp [ancestors] at h
  | succ count ih =>
      have hlength : ∀ count, (ancestors path count).length = count := by
        intro count
        induction count with
        | zero => rfl
        | succ count ih => simp [ancestors, ih]
      cases front with
      | nil =>
          obtain ⟨hinner, houter⟩ := List.cons.inj h
          have hcount : outer.length = count := by rw [← houter, hlength]
          rw [hcount]
          exact ⟨Nat.le_refl _, hinner.symm, houter.symm⟩
      | cons other front =>
          obtain ⟨hle, hrest⟩ := ih (List.cons.inj h).2
          exact ⟨by omega, hrest⟩

theorem names_ancestor (path : String) (count : Nat) :
    names (ancestor path count) = (steps path).take count := by
  have h := names_intercalate (l := (steps path).take count) fun name hmem =>
    isName_of_mem_steps (List.mem_of_mem_take hmem)
  unfold ancestor
  split_ifs
  · have hslash := names_append_slash "" ("/".intercalate ((steps path).take count))
    rw [names_empty, List.nil_append, h] at hslash
    simpa using hslash
  · simpa using h

theorem names_ne_nil_of_mem_ancestors {other : String} (hsteps : steps path ≠ [])
    (h : other ∈ ancestors path k) : names other ≠ [] := by
  obtain ⟨front, outer, hsplit⟩ := List.append_of_mem h
  obtain ⟨_, rfl, _⟩ := eq_of_ancestors_eq_append hsplit
  rw [names_ancestor]
  intro hnil
  rcases List.take_eq_nil_iff.mp hnil with hz | hnone
  · exact Nat.succ_ne_zero _ hz
  · exact hsteps hnone

theorem isAbsolute_ancestor (hk : k ≠ 0) (hsteps : steps path ≠ []) :
    isAbsolute (ancestor path k) = isAbsolute path := by
  unfold ancestor
  cases ha : isAbsolute path with
  | true => simp [isAbsolute]
  | false =>
      obtain ⟨first, rest, hs⟩ := List.exists_cons_of_ne_nil hsteps
      obtain ⟨count, rfl⟩ := Nat.exists_eq_succ_of_ne_zero hk
      have hmem : first ∈ steps path := by simp [hs]
      have hname := isName_of_mem_steps hmem
      obtain ⟨c, more, hc⟩ : ∃ c more, first.toList = c :: more :=
        List.exists_cons_of_ne_nil fun h => hname.ne_empty (String.toList_eq_nil_iff.mp h)
      have hslash : c ≠ '/' := fun h => hname.slash (by simp [hc, h])
      rw [hs, List.take_succ_cons]
      cases hr : rest.take count with
      | nil => simp [isAbsolute, hc, hslash]
      | cons second more => simp [isAbsolute, String.intercalate_cons_cons, hc, hslash]

theorem ancestor_ne_empty (hk : k ≠ 0) (hsteps : steps path ≠ []) : ancestor path k ≠ "" := by
  intro h
  have hn := names_ancestor path k
  rw [h, names_empty] at hn
  rcases List.take_eq_nil_iff.mp hn.symm with hz | hnil
  · exact hk hz
  · exact hsteps hnil

end StepCommand.Pathname
