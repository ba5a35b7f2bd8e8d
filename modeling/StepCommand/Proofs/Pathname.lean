import Mathlib.Tactic.SplitIfs
import StepCommand.Pathname

namespace StepCommand

namespace Text

theorem pieces_eq_splitOn (separator : Char) (s : List Char) :
    pieces separator s = s.splitOn separator := by
  induction s with
  | nil => rfl
  | cons c rest ih =>
      obtain ⟨first, more, hsplit⟩ :=
        List.exists_cons_of_ne_nil (List.splitOn_ne_nil separator rest)
      rw [List.splitOn_cons_eq_if_modifyHead, pieces, ih, hsplit]
      by_cases hc : c = separator <;> simp [hc]

theorem pieces_ne_nil (separator : Char) (s : List Char) : pieces separator s ≠ [] := by
  rw [pieces_eq_splitOn]
  exact List.splitOn_ne_nil separator s

theorem pieces_of_notMem {separator : Char} {s : List Char} (h : separator ∉ s) :
    pieces separator s = [s] := by
  rw [pieces_eq_splitOn, List.splitOn_eq_singleton h]

theorem pieces_append_separator (separator : Char) (s rest : List Char) :
    pieces separator (s ++ separator :: rest) = pieces separator s ++ pieces separator rest := by
  simp only [pieces_eq_splitOn, List.splitOn_append_cons_self]

theorem notMem_of_mem_pieces {separator : Char} {s piece : List Char}
    (h : piece ∈ pieces separator s) : separator ∉ piece := by
  induction s generalizing piece with
  | nil =>
      simp only [pieces, List.mem_singleton] at h
      simp [h]
  | cons c s ih =>
      unfold pieces at h
      split_ifs at h with hc
      · rcases List.mem_cons.mp h with rfl | h
        · simp
        · exact ih h
      · obtain ⟨first, more, hp⟩ := List.exists_cons_of_ne_nil (pieces_ne_nil separator s)
        rw [hp] at h ih
        rcases List.mem_cons.mp h with rfl | h
        · simp [Ne.symm hc, ih List.mem_cons_self]
        · exact ih (List.mem_cons_of_mem _ h)

theorem eq_append_of_cutAt {separator : Char} {s before after : List Char}
    (h : cutAt separator s = some (before, after)) : s = before ++ separator :: after := by
  induction s generalizing before with
  | nil => cases h
  | cons c rest ih =>
      unfold cutAt at h
      split at h
      next hc =>
        cases h
        simp [hc]
      next =>
        obtain ⟨⟨first, last⟩, hcut, heq⟩ := Option.map_eq_some_iff.mp h
        cases heq
        simp [ih hcut]

theorem notMem_of_cutAt_none {separator : Char} {s : List Char}
    (h : cutAt separator s = none) : separator ∉ s := by
  induction s with
  | nil => simp
  | cons c rest ih =>
      unfold cutAt at h
      split at h
      next => cases h
      next hc =>
        have hrest := ih (Option.map_eq_none_iff.mp h)
        simp [Ne.symm hc, hrest]

theorem pieces_of_cutAt {separator : Char} {s before after : List Char}
    (h : cutAt separator s = some (before, after)) :
    pieces separator s = before :: pieces separator after := by
  induction s generalizing before with
  | nil => cases h
  | cons c rest ih =>
      unfold cutAt at h
      split at h
      next hc =>
        cases h
        rw [pieces, if_pos hc]
      next hc =>
        obtain ⟨⟨first, last⟩, hcut, heq⟩ := Option.map_eq_some_iff.mp h
        cases heq
        rw [pieces, if_neg hc, ih hcut]

theorem pieces_of_cutAt_none {separator : Char} {s : List Char}
    (h : cutAt separator s = none) : pieces separator s = [s] :=
  pieces_of_notMem (notMem_of_cutAt_none h)

-- To put another text for the separator is to join the pieces with it.
theorem intercalate_pieces_eq_flatMap (separator : Char) (other s : List Char) :
    other.intercalate (pieces separator s) =
      s.flatMap fun c => if c = separator then other else [c] := by
  induction s with
  | nil => rfl
  | cons c rest ih =>
      obtain ⟨first, more, hp⟩ := List.exists_cons_of_ne_nil (pieces_ne_nil separator rest)
      rw [hp] at ih
      rw [List.flatMap_cons, ← ih]
      by_cases hc : c = separator
      · rw [pieces, if_pos hc, if_pos hc, hp, List.intercalate_cons_cons]
        rfl
      · rw [pieces, if_neg hc, if_neg hc, hp]
        cases more with
        | nil => simp
        | cons second more => simp

theorem intercalate_pieces (separator other : Char) (s : List Char) :
    [other].intercalate (pieces separator s) =
      s.map fun c => if c = separator then other else c := by
  rw [intercalate_pieces_eq_flatMap, List.map_eq_flatMap]
  refine congrArg (s.flatMap ·) (funext fun c => ?_)
  split <;> rfl

-- What has no separator stays with the last piece.
theorem getLast?_pieces_append {separator : Char} {t : List Char} (h : separator ∉ t)
    (s : List Char) : ∃ piece, (pieces separator (s ++ t)).getLast? = some (piece ++ t) := by
  induction s with
  | nil => exact ⟨[], by simp [pieces_of_notMem h]⟩
  | cons c rest ih =>
      obtain ⟨piece, hl⟩ := ih
      obtain ⟨first, more, hp⟩ :=
        List.exists_cons_of_ne_nil (pieces_ne_nil separator (rest ++ t))
      by_cases hc : c = separator
      · exact ⟨piece, by rw [List.cons_append, pieces, if_pos hc, hp, List.getLast?_cons_cons,
          ← hp, hl]⟩
      · rw [List.cons_append, pieces, if_neg hc, hp]
        cases more with
        | nil =>
            rw [hp] at hl
            cases hl
            exact ⟨c :: piece, rfl⟩
        | cons second more =>
            rw [hp, List.getLast?_cons_cons] at hl
            exact ⟨piece, by rw [List.getLast?_cons_cons, hl]⟩

end Text

namespace Pathname

-- What may stand between two slashes.
structure IsName (name : String) : Prop where
  ne_empty : name ≠ ""
  slash : '/' ∉ name.toList

theorem names_append_slash (s t : String) : names (s ++ "/" ++ t) = names s ++ names t := by
  have h : (s ++ "/" ++ t).toList = s.toList ++ '/' :: t.toList := by simp
  simp only [names, h, Text.pieces_append_separator, List.filter_append, List.map_append]

@[simp] theorem names_empty : names "" = [] := rfl

theorem names_of_isName {name : String} (h : IsName name) : names name = [name] := by
  have hne : name.toList ≠ [] := fun he => h.ne_empty (String.toList_eq_nil_iff.mp he)
  simp [names, Text.pieces_of_notMem h.slash, hne]

theorem isName_of_mem_names {path name : String} (h : name ∈ names path) : IsName name := by
  obtain ⟨piece, hp, rfl⟩ := List.mem_map.mp h
  obtain ⟨hmem, hne⟩ := List.mem_filter.mp hp
  refine ⟨?_, ?_⟩
  · simpa using hne
  · simpa using Text.notMem_of_mem_pieces hmem

theorem exists_of_endsInSlash {path : String} (h : endsInSlash path = true) :
    ∃ front, path = front ++ "/" := by
  obtain ⟨front, hf⟩ := List.getLast?_eq_some_iff.mp (eq_of_beq h)
  exact ⟨String.ofList front, String.toList_inj.mp (by simp [hf])⟩

theorem names_join_eq (directory name : String) :
    names (join directory name) = names directory ++ names name := by
  unfold join
  split_ifs with hd
  · rcases hd with rfl | hd
    · simp
    · obtain ⟨front, rfl⟩ := exists_of_endsInSlash hd
      have he : names (front ++ "/") = names front := by
        simpa using names_append_slash front ""
      rw [names_append_slash, he]
  · rw [names_append_slash]

theorem names_join {name : String} (directory : String) (h : IsName name) :
    names (join directory name) = names directory ++ [name] := by
  rw [names_join_eq, names_of_isName h]

theorem endsInSlash_append {name : String} (s : String) (h : IsName name) :
    endsInSlash (s ++ name) = false := by
  have hne : name.toList ≠ [] := fun he => h.ne_empty (String.toList_eq_nil_iff.mp he)
  have hlast : name.toList.getLast hne ≠ '/' := fun he => h.slash (he ▸ List.getLast_mem hne)
  simp [endsInSlash, List.getLast?_append, List.getLast?_eq_some_getLast hne, hlast]

theorem endsInSlash_join {name : String} (directory : String) (h : IsName name) :
    endsInSlash (join directory name) = false := by
  unfold join
  split_ifs
  · exact endsInSlash_append _ h
  · exact endsInSlash_append _ h

-- What a file can be made at.
structure NamesFile (path : String) : Prop where
  slash : endsInSlash path = false
  last : ∃ name, (names path).getLast? = some name ∧ name ≠ "." ∧ name ≠ ".."

theorem namesFile_join {name : String} (directory : String) (h : IsName name)
    (hdots : name ≠ "." ∧ name ≠ "..") : NamesFile (join directory name) where
  slash := endsInSlash_join directory h
  last := ⟨name, by simp [names_join directory h], hdots⟩

-- Without a name, a path is the root or nothing.
theorem isAbsolute_of_names_eq_nil {path : String} (hne : path ≠ "") (h : names path = []) :
    isAbsolute path = true := by
  cases hp : path.toList with
  | nil => exact absurd (String.toList_eq_nil_iff.mp hp) hne
  | cons c rest =>
      by_cases hc : c = '/'
      · simp [isAbsolute, hp, hc]
      · obtain ⟨piece, more, hmore⟩ :=
          List.exists_cons_of_ne_nil (Text.pieces_ne_nil '/' rest)
        simp [names, hp, Text.pieces, hc, hmore] at h

theorem endsInSlash_of_names_eq_nil {path : String} (hne : path ≠ "") (h : names path = []) :
    endsInSlash path = true := by
  obtain ⟨front, c, hp⟩ : ∃ front c, path.toList = front ++ [c] :=
    ⟨_, _, (List.dropLast_concat_getLast fun hnil => hne (String.toList_eq_nil_iff.mp hnil)).symm⟩
  by_cases hc : c = '/'
  · simp [endsInSlash, hp, hc]
  · have hslash : '/' ∉ [c] := by simpa using Ne.symm hc
    obtain ⟨piece, hlast⟩ := Text.getLast?_pieces_append hslash front
    rw [names, List.map_eq_nil_iff, hp, List.filter_eq_nil_iff] at h
    exact absurd (h _ (List.mem_of_getLast? hlast)) (by simp)

theorem getLast?_names_of_steps {path name : String}
    (h : (steps path).getLast? = some name) :
    (names path).getLast? = some name ∨ (names path).getLast? = some "." := by
  unfold steps at h
  split at h
  next => cases h
  next first rest hn =>
    rw [hn]
    rcases List.eq_nil_or_concat rest with rfl | ⟨front, last, rfl⟩
    · simp only [List.filter_nil] at h
      split at h
      · cases h
      · exact .inl h
    · by_cases hd : last = "."
      · exact .inr (by simp [hd, List.getLast?_cons])
      · have hfilter : (front.concat last).filter (· ≠ ".") = front.filter (· ≠ ".") ++ [last] := by
          simp [hd]
        rw [hfilter] at h
        have hlast : last = name := by
          split at h <;> simpa [List.getLast?_cons] using h
        exact .inl (by simp [List.getLast?_cons, hlast])

-- Where generated files stand.
def EndsInGo (path : String) : Prop :=
  ∃ front, (names path).getLast? = some (front ++ ".go")

theorem not_endsInGo_join_yaml (directory front : String) :
    ¬ EndsInGo (join directory (front ++ ".yaml")) := by
  have hyaml : '/' ∉ ".yaml".toList := by decide
  obtain ⟨piece, hp⟩ := Text.getLast?_pieces_append hyaml front.toList
  obtain ⟨before, hbefore⟩ := List.getLast?_eq_some_iff.mp hp
  rintro ⟨other, hgo⟩
  have hnames : (names (front ++ ".yaml")).getLast? =
      some (String.ofList (piece ++ ".yaml".toList)) := by
    rw [names, String.toList_append, hbefore]
    simp
  rw [names_join_eq, List.getLast?_append, hnames, Option.some_or] at hgo
  have hlast := congrArg (fun s => s.toList.getLast?) (Option.some.inj hgo)
  simp [List.getLast?_append] at hlast

end Pathname

end StepCommand
