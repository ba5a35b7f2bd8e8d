import StepCommand.FileTree

namespace StepCommand.FileTree

section Entries

variable {entries : List (String × FileTree)} {name other : String} {tree inner : FileTree}

theorem lookup_cons_eq_ite (key name : String) (tree : FileTree)
    (rest : List (String × FileTree)) :
    ((key, tree) :: rest).lookup name = if name = key then some tree else rest.lookup name := by
  by_cases h : name = key <;> simp [List.lookup_cons, h, beq_eq_false_iff_ne.mpr]

theorem lookup_setEntry (name other : String) (tree : FileTree)
    (entries : List (String × FileTree)) :
    (setEntry name tree entries).lookup other =
      if other = name then some tree else entries.lookup other := by
  induction entries with
  | nil => simp [setEntry, lookup_cons_eq_ite]
  | cons entry rest ih =>
      rcases entry with ⟨first, inner⟩
      by_cases hf : first = name
      · subst hf
        by_cases ho : other = first <;> simp [setEntry, lookup_cons_eq_ite, ho]
      · by_cases ho : other = first
        · subst ho
          simp [setEntry, hf]
        · simp [setEntry, lookup_cons_eq_ite, hf, ho, ih]

theorem setEntry_setEntry (name : String) (tree inner : FileTree)
    (entries : List (String × FileTree)) :
    setEntry name tree (setEntry name inner entries) = setEntry name tree entries := by
  induction entries with
  | nil => simp [setEntry]
  | cons entry rest ih =>
      by_cases hf : entry.1 = name <;> simp [setEntry, hf, ih]

theorem setEntry_of_lookup (h : entries.lookup name = some tree) :
    setEntry name tree entries = entries := by
  induction entries with
  | nil => simp at h
  | cons entry rest ih =>
      rcases entry with ⟨first, inner⟩
      by_cases hf : first = name
      · subst hf
        have he : inner = tree := by simpa using h
        simp [setEntry, he]
      · have hr : rest.lookup name = some tree := by
          simpa [lookup_cons_eq_ite, Ne.symm hf] using h
        simp [setEntry, hf, ih hr]

-- An entry that is there already keeps its place, whatever else is set.
theorem setEntry_comm (hne : name ≠ other) (h : (entries.lookup name).isSome) :
    setEntry name tree (setEntry other inner entries) =
      setEntry other inner (setEntry name tree entries) := by
  induction entries with
  | nil => simp at h
  | cons entry rest ih =>
      rcases entry with ⟨first, old⟩
      by_cases hf : first = name
      · subst hf
        simp [setEntry, hne]
      · have hr : (rest.lookup name).isSome := by
          simpa [lookup_cons_eq_ite, Ne.symm hf] using h
        by_cases ho : first = other
        · subst ho
          simp [setEntry, hf]
        · simp [setEntry, hf, ho, ih hr]

end Entries

@[simp] theorem find?_nil (tree : FileTree) : tree.find? [] = some tree := by
  cases tree <;> rfl

theorem find?_append (tree : FileTree) (location rest : Location) :
    tree.find? (location ++ rest) = (tree.find? location).bind fun inner => inner.find? rest := by
  induction location generalizing tree with
  | nil => simp
  | cons name location ih =>
      cases tree with
      | file content => rfl
      | directory entries =>
          simp only [List.cons_append, find?]
          cases entries.lookup name with
          | none => rfl
          | some inner => exact ih inner

theorem put_put (tree : FileTree) (location : Location) (first second : FileTree) :
    (tree.put location first).put location second = tree.put location second := by
  induction location generalizing tree with
  | nil => cases tree <;> cases first <;> rfl
  | cons name location ih =>
      cases tree with
      | file content => rfl
      | directory entries => simp [put, lookup_setEntry, setEntry_setEntry, ih]

theorem put_of_find? {tree inner : FileTree} {location : Location}
    (h : tree.find? location = some inner) : tree.put location inner = tree := by
  induction location generalizing tree with
  | nil =>
      simp only [find?_nil, Option.some.injEq] at h
      subst h
      cases tree <;> rfl
  | cons name location ih =>
      cases tree with
      | file content => cases h
      | directory entries =>
          simp only [find?] at h
          split at h
          next found hl =>
            simp only [put, hl, Option.getD_some, ih h]
            rw [setEntry_of_lookup hl]
          next => cases h

-- Two files that are there already may be replaced in any order.
theorem put_comm {tree : FileTree} {location other : Location} {a b : ByteArray}
    (first second : FileTree) (hne : location ≠ other) (hl : tree.find? location = some (.file a))
    (ho : tree.find? other = some (.file b)) :
    (tree.put location first).put other second = (tree.put other second).put location first := by
  induction location generalizing tree other with
  | nil =>
      simp only [find?_nil, Option.some.injEq] at hl
      subst hl
      cases other with
      | nil => exact absurd rfl hne
      | cons next rest => cases ho
  | cons name location ih =>
      cases tree with
      | file content => cases hl
      | directory entries =>
          cases other with
          | nil => simp at ho
          | cons next rest =>
              simp only [find?] at hl ho
              split at hl
              next inner hinner =>
                by_cases he : next = name
                · subst he
                  simp only [hinner] at ho
                  have hrest : location ≠ rest := fun h => hne (by rw [h])
                  simp [put, lookup_setEntry, setEntry_setEntry, hinner, ih hrest hl ho]
                · simp only [put, lookup_setEntry, he, Ne.symm he, if_false]
                  rw [setEntry_comm he]
                  split at ho
                  next found hfound => simp [hfound]
                  next => cases ho
              next => cases hl

-- What stands at a location, without what is in a directory there.
inductive Entry where
  | file (content : ByteArray)
  | directory

instance : DecidableEq Entry
  | .file content, .file other =>
      match ByteArray.instDecidableEq content other with
      | isTrue h => isTrue (congrArg Entry.file h)
      | isFalse h => isFalse fun heq => h (Entry.file.inj heq)
  | .file _, .directory => isFalse nofun
  | .directory, .file _ => isFalse nofun
  | .directory, .directory => isTrue rfl

def entry : FileTree → Entry
  | file content => .file content
  | directory _ => .directory

def entryAt (tree : FileTree) (location : Location) : Option Entry :=
  (tree.find? location).map entry

theorem entryAt_eq_directory_iff {tree : FileTree} {location : Location} :
    tree.entryAt location = some .directory ↔
      ∃ entries, tree.find? location = some (.directory entries) := by
  unfold entryAt
  cases h : tree.find? location with
  | none => simp
  | some inner => cases inner <;> simp [entry]

theorem entryAt_eq_file_iff {tree : FileTree} {location : Location} {content : ByteArray} :
    tree.entryAt location = some (.file content) ↔
      tree.find? location = some (.file content) := by
  unfold entryAt
  cases h : tree.find? location with
  | none => simp
  | some inner => cases inner <;> simp [entry]

theorem find?_append_singleton {tree : FileTree} {location : Location}
    {entries : List (String × FileTree)} (h : tree.find? location = some (.directory entries))
    (name : String) : tree.find? (location ++ [name]) = entries.lookup name := by
  simp only [find?_append, h, Option.bind_some, find?]
  cases entries.lookup name <;> simp

theorem entryAt_append_singleton {tree : FileTree} {location : Location}
    {entries : List (String × FileTree)} (h : tree.find? location = some (.directory entries))
    (name : String) : tree.entryAt (location ++ [name]) = (entries.lookup name).map entry := by
  rw [entryAt, find?_append_singleton h]

-- Whatever there is, is in directories.
theorem entryAt_dropLast {tree : FileTree} {location : Location} (hne : location ≠ [])
    (h : (tree.entryAt location).isSome) : tree.entryAt location.dropLast = some .directory := by
  obtain ⟨front, last, rfl⟩ : ∃ front last, location = front ++ [last] :=
    ⟨_, _, (List.dropLast_concat_getLast hne).symm⟩
  rw [List.dropLast_concat]
  simp only [entryAt, find?_append, Option.isSome_map] at h
  obtain ⟨inner, hi⟩ := Option.isSome_iff_exists.mp (Option.isSome_of_isSome_bind h)
  rw [entryAt_eq_directory_iff]
  cases inner with
  | directory entries => exact ⟨entries, hi⟩
  | file content => simp [hi, find?] at h

theorem isSome_entryAt_of_prefix {tree : FileTree} {location goal : Location}
    (hp : location <+: goal) (h : (tree.entryAt goal).isSome) :
    (tree.entryAt location).isSome := by
  obtain ⟨rest, rfl⟩ := hp
  simp only [entryAt, find?_append, Option.isSome_map] at h ⊢
  exact Option.isSome_of_isSome_bind h

-- What has nothing in it changes nothing else, if no directory gives way to it.
theorem entryAt_put {tree leaf : FileTree} {location : Location}
    {entries : List (String × FileTree)} {name : String}
    (hl : tree.find? location = some (.directory entries))
    (hn : (entries.lookup name).map entry ≠ some .directory)
    (hleaf : ∀ next rest, leaf.find? (next :: rest) = none) (other : Location) :
    (tree.put (location ++ [name]) leaf).entryAt other =
      if other = location ++ [name] then some leaf.entry else tree.entryAt other := by
  induction location generalizing tree other with
  | nil =>
      simp only [find?_nil, Option.some.injEq] at hl
      subst hl
      cases other with
      | nil => simp [put, entryAt, entry]
      | cons next rest =>
          by_cases he : next = name
          · subst he
            cases rest with
            | nil => simp [put, entryAt, find?, lookup_setEntry]
            | cons inner rest =>
                have hold : (FileTree.directory entries).find? (next :: inner :: rest) = none := by
                  simp only [find?]
                  split
                  next found hfound =>
                    cases found with
                    | file content => rfl
                    | directory inner => simp [hfound, entry] at hn
                  next => rfl
                simp [put, entryAt, hold]
                simp [find?, lookup_setEntry, hleaf]
          · simp [put, entryAt, find?, lookup_setEntry, he]
  | cons first location ih =>
      cases tree with
      | file content => cases hl
      | directory outer =>
          simp only [find?] at hl
          split at hl
          next inner hinner =>
            cases other with
            | nil => simp [put, entryAt, entry]
            | cons next rest =>
                by_cases he : next = first
                · subst he
                  have hrest := ih hl rest
                  simp only [entryAt] at hrest
                  simpa [put, entryAt, find?, lookup_setEntry, hinner] using hrest
                · simp [put, entryAt, find?, lookup_setEntry, he]
          next => cases hl

end StepCommand.FileTree
