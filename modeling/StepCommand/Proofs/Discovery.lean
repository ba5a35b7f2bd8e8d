import StepCommand.Discovery
import StepCommand.Proofs.Disk.File

namespace StepCommand

namespace Discovery

theorem isMetadata_append_go (front : String) : isMetadata (front ++ ".go") = false := by
  have hr : (front ++ ".go").toList.reverse = 'o' :: 'g' :: '.' :: front.toList.reverse := by simp
  unfold isMetadata Pathname.extension?
  rw [hr]
  simp only [Text.cutAt]
  by_cases hf : front.toList.reverse = []
  · simp [hf]
  · simp [hf]

-- The last name on the path has the extension of metadata files.
def IsMetadataPath (path : String) : Prop :=
  ∃ name, (Pathname.steps path).getLast? = some name ∧ isMetadata name = true

theorem isMetadataPath_iff {path : String} :
    IsMetadataPath path ↔ (Pathname.steps path).getLast?.any isMetadata = true := by
  simp [IsMetadataPath, Option.any_eq_true]

instance (path : String) : Decidable (IsMetadataPath path) :=
  decidable_of_iff _ isMetadataPath_iff.symm

theorem IsMetadataPath.not_endsInGo {path : String} (h : IsMetadataPath path) :
    ¬ Pathname.EndsInGo path := by
  obtain ⟨name, hs, hm⟩ := h
  rintro ⟨front, hgo⟩
  obtain hl | hl := Pathname.getLast?_names_of_steps hs
  · cases hl.symm.trans hgo
    rw [isMetadata_append_go] at hm
    cases hm
  · have hdot := Option.some.inj (hl.symm.trans hgo)
    have hlast := congrArg (fun s => s.toList.getLast?) hdot
    simp [List.getLast?_append] at hlast

-- The name has more before its last dot.
theorem isMetadata_iff {name : String} :
    isMetadata name = true ↔ ∃ front, front ≠ "" ∧ name = front ++ ".yaml" := by
  constructor
  · intro h
    have he : Pathname.extension? name = some "yaml" := of_decide_eq_true h
    unfold Pathname.extension? at he
    split at he
    next last first hc =>
      split at he
      · cases he
      next hne =>
        have hlast : last.reverse = "yaml".toList := by
          rw [← Option.some.inj he, String.toList_ofList]
        have hname := Text.eq_append_of_cutAt hc
        refine ⟨String.ofList first.reverse, ?_, String.toList_inj.mp ?_⟩
        · simpa [← String.toList_inj] using hne
        · rw [← List.reverse_reverse name.toList, hname]
          simp [hlast]
    next => cases he
  · rintro ⟨front, hne, rfl⟩
    have hr : (front ++ ".yaml").toList.reverse =
        'l' :: 'm' :: 'a' :: 'y' :: '.' :: front.toList.reverse := by simp
    have hfront : front.toList ≠ [] := fun he => hne (String.toList_eq_nil_iff.mp he)
    unfold isMetadata Pathname.extension?
    rw [hr]
    simp [Text.cutAt, hfront]

theorem eq_append_of_isMetadata {name : String} (h : isMetadata name = true) :
    ∃ front, name = front ++ ".yaml" :=
  (isMetadata_iff.mp h).imp fun _ => And.right

mutual

-- Whatever is found has been found by its name.
theorem not_endsInGo_of_mem_found : ∀ (tree : FileTree) (path name : String),
    (isMetadata name = true → ¬ Pathname.EndsInGo path) →
    ∀ other ∈ found path name tree, ¬ Pathname.EndsInGo other
  | .file _, path, name, hp, other, hmem => by
      unfold found at hmem
      split at hmem
      next hm =>
        cases List.mem_singleton.mp hmem
        exact hp hm
      next => cases hmem
  | .directory entries, path, name, hp, other, hmem => by
      rw [found] at hmem
      split at hmem
      next =>
        obtain ⟨entry, hentry, hother⟩ := List.mem_flatMap.mp hmem
        exact not_endsInGo_of_mem_foundIn entries path entry
          ((List.mergeSort_perm _ _).mem_iff.mp hentry) other hother
      next =>
        split at hmem
        next hm =>
          cases List.mem_singleton.mp hmem
          exact hp hm
        next => cases hmem

theorem not_endsInGo_of_mem_foundIn : ∀ (entries : List (String × FileTree)) (directory : String),
    ∀ entry ∈ foundIn directory entries, ∀ other ∈ entry.2, ¬ Pathname.EndsInGo other
  | [], _, _, hentry, _, _ => by cases hentry
  | (name, tree) :: rest, directory, entry, hentry, other, hother => by
      rw [foundIn] at hentry
      rcases List.mem_cons.mp hentry with rfl | hentry
      · refine not_endsInGo_of_mem_found tree _ name (fun hm => ?_) other hother
        obtain ⟨front, rfl⟩ := eq_append_of_isMetadata hm
        exact Pathname.not_endsInGo_join_yaml directory front
      · exact not_endsInGo_of_mem_foundIn rest directory entry hentry other hother

end

section Sorting

variable {α : Type} {le : α → α → Bool}

-- A list falls apart in one way into elements that come before another and those that do not.
theorem append_inj_of_filter {p : α → Bool} {l₁ l₂ m₁ m₂ : List α} (h : l₁ ++ l₂ = m₁ ++ m₂)
    (hl₁ : ∀ x ∈ l₁, p x = true) (hl₂ : ∀ x ∈ l₂, p x = false) (hm₁ : ∀ x ∈ m₁, p x = true)
    (hm₂ : ∀ x ∈ m₂, p x = false) : l₁ = m₁ ∧ l₂ = m₂ := by
  have hfirst := congrArg (List.filter p) h
  rw [List.filter_append, List.filter_append, List.filter_eq_self.mpr hl₁,
    List.filter_eq_self.mpr hm₁, List.filter_eq_nil_iff.mpr (by simpa using hl₂),
    List.filter_eq_nil_iff.mpr (by simpa using hm₂), List.append_nil, List.append_nil] at hfirst
  subst hfirst
  exact ⟨rfl, List.append_cancel_left h⟩

theorem filter_mergeSort (htrans : ∀ a b c, le a b → le b c → le a c)
    (htotal : ∀ a b, le a b || le b a) (p : α → Bool) (l : List α) :
    (l.mergeSort le).filter p = (l.filter p).mergeSort le := by
  induction l with
  | nil => simp
  | cons a l ih =>
      obtain ⟨l₁, l₂, hcons, hl, hbefore⟩ := List.mergeSort_cons htrans htotal a l
      rw [hl, List.filter_append] at ih
      by_cases hp : p a = true
      · obtain ⟨m₁, m₂, hcons', hm, hbefore'⟩ :=
          List.mergeSort_cons htrans htotal a (l.filter p)
        have hafter : ∀ x ∈ l₂, le a x = true := by
          have hsorted := List.pairwise_mergeSort htrans htotal (a :: l)
          rw [hcons] at hsorted
          exact (List.pairwise_cons.mp (List.pairwise_append.mp hsorted).2.1).1
        have hafter' : ∀ x ∈ m₂, le a x = true := by
          have hsorted := List.pairwise_mergeSort htrans htotal (a :: l.filter p)
          rw [hcons'] at hsorted
          exact (List.pairwise_cons.mp (List.pairwise_append.mp hsorted).2.1).1
        obtain ⟨h₁, h₂⟩ := append_inj_of_filter (p := fun x => !le a x) (ih.trans hm)
          (fun x hx => hbefore x (List.mem_filter.mp hx).1)
          (fun x hx => by simp [hafter x (List.mem_filter.mp hx).1])
          hbefore' (fun x hx => by simp [hafter' x hx])
        rw [hcons, List.filter_cons_of_pos hp, hcons', List.filter_append,
          List.filter_cons_of_pos hp, h₁, h₂]
      · rw [hcons, List.filter_append, List.filter_cons_of_neg hp, List.filter_cons_of_neg hp, ih]

end Sorting

-- An entry without a metadata file adds nothing, wherever it is sorted in.
theorem flatMap_mergeSort_append (entries : List (String × List String)) (name : String) :
    ((entries ++ [(name, [])]).mergeSort Value.byKey).flatMap Prod.snd =
      (entries.mergeSort Value.byKey).flatMap Prod.snd := by
  have hfilter : ∀ l : List (String × List String), (l.mergeSort Value.byKey).flatMap Prod.snd =
      ((l.filter fun entry => entry.2 ≠ []).mergeSort Value.byKey).flatMap Prod.snd := by
    intro l
    rw [← filter_mergeSort]
    · induction l.mergeSort Value.byKey with
      | nil => rfl
      | cons entry rest ih =>
          by_cases he : entry.2 = []
          · simp [he, ih]
          · simp [he, ih]
    · intro a b c hab hbc
      simp only [Value.byKey, decide_eq_true_eq] at *
      exact String.le_trans hab hbc
    · intro a b
      simp only [Value.byKey, Bool.or_eq_true, decide_eq_true_eq]
      exact String.le_total a.1 b.1
  rw [hfilter, hfilter entries]
  simp

theorem foundIn_setEntry {entries : List (String × FileTree)} {name directory : String}
    {tree inner : FileTree} (h : entries.lookup name = some inner)
    (he : found (Pathname.join directory name) name tree =
      found (Pathname.join directory name) name inner) :
    foundIn directory (FileTree.setEntry name tree entries) = foundIn directory entries := by
  induction entries with
  | nil => cases h
  | cons entry rest ih =>
      obtain ⟨first, old⟩ := entry
      rw [FileTree.lookup_cons_eq_ite] at h
      by_cases hf : first = name
      · subst hf
        rw [if_pos rfl] at h
        cases h
        simp [FileTree.setEntry, foundIn, he]
      · rw [if_neg (Ne.symm hf)] at h
        simp [FileTree.setEntry, foundIn, hf, ih h]

theorem foundIn_setEntry_of_none {entries : List (String × FileTree)} {name : String}
    (h : entries.lookup name = none) (directory : String) (tree : FileTree) :
    foundIn directory (FileTree.setEntry name tree entries) =
      foundIn directory entries ++ [(name, found (Pathname.join directory name) name tree)] := by
  induction entries with
  | nil => simp [FileTree.setEntry, foundIn]
  | cons entry rest ih =>
      obtain ⟨first, old⟩ := entry
      rw [FileTree.lookup_cons_eq_ite] at h
      by_cases hf : name = first
      · rw [if_pos hf] at h
        cases h
      · rw [if_neg hf] at h
        simp [FileTree.setEntry, foundIn, Ne.symm hf, ih h]

-- A file that is no metadata file is not found, and hides nothing.
theorem found_put {tree : FileTree} {location : Location} {entries : List (String × FileTree)}
    {last : String} (h : tree.find? location = some (.directory entries))
    (hn : (entries.lookup last).map FileTree.entry ≠ some .directory)
    (hlast : isMetadata last = false) (content : ByteArray) (path name : String) :
    found path name (tree.put (location ++ [last]) (.file content)) = found path name tree := by
  have hfile : ∀ path content, found path last (.file content) = [] := by
    intro path content
    simp [found, hlast]
  induction location generalizing tree path name with
  | nil =>
      simp only [FileTree.find?_nil, Option.some.injEq] at h
      subst h
      simp only [List.nil_append, FileTree.put, found]
      cases hl : entries.lookup last with
      | none =>
          rw [foundIn_setEntry_of_none hl, hfile, flatMap_mergeSort_append]
      | some inner =>
          cases inner with
          | file old => rw [foundIn_setEntry hl ((hfile _ _).trans (hfile _ _).symm)]
          | directory inner => simp [hl, FileTree.entry] at hn
  | cons first location ih =>
      cases tree with
      | file content => cases h
      | directory outer =>
          simp only [FileTree.find?] at h
          split at h
          next inner hl =>
            simp only [List.cons_append, FileTree.put, hl, Option.getD_some, found]
            rw [foundIn_setEntry hl (ih h _ _)]
          next => cases h

-- The same is found in every directory, whether the file is in it or not.
theorem find?_put {tree : FileTree} {location goal : Location}
    {entries inside : List (String × FileTree)} {last : String}
    (h : tree.find? location = some (.directory entries))
    (hn : (entries.lookup last).map FileTree.entry ≠ some .directory)
    (hlast : isMetadata last = false) (hg : tree.find? goal = some (.directory inside))
    (content : ByteArray) : ∃ after,
      (tree.put (location ++ [last]) (.file content)).find? goal = some (.directory after) ∧
        ∀ path name, found path name (.directory after) = found path name (.directory inside) := by
  induction goal generalizing tree location with
  | nil =>
      simp only [FileTree.find?_nil, Option.some.injEq] at hg
      subst hg
      have hfound := found_put h hn hlast content
      cases location with
      | nil => exact ⟨_, FileTree.find?_nil _, hfound⟩
      | cons first rest => exact ⟨_, FileTree.find?_nil _, hfound⟩
  | cons next goal ih =>
      cases tree with
      | file content => cases hg
      | directory outer =>
          simp only [FileTree.find?] at hg
          split at hg
          next inner hinner =>
            cases location with
            | nil =>
                simp only [FileTree.find?_nil, Option.some.injEq, FileTree.directory.injEq] at h
                subst h
                have hne : next ≠ last := by
                  rintro rfl
                  cases inner with
                  | directory inner => simp [hinner, FileTree.entry] at hn
                  | file content => cases goal <;> cases hg
                exact ⟨inside, by simp [FileTree.put, FileTree.find?, FileTree.lookup_setEntry, hne,
                  hinner, hg], fun _ _ => rfl⟩
            | cons first location =>
                simp only [FileTree.find?] at h
                split at h
                next other hother =>
                  by_cases he : next = first
                  · subst he
                    rw [hinner] at hother
                    cases hother
                    obtain ⟨after, hafter, hfound⟩ := ih h hg
                    exact ⟨after, by simp [FileTree.put, FileTree.find?, FileTree.lookup_setEntry,
                      hinner, hafter], hfound⟩
                  · exact ⟨inside, by simp [FileTree.put, FileTree.find?,
                      FileTree.lookup_setEntry, he, hinner, hg], fun _ _ => rfl⟩
                next => cases h
          next => cases hg

variable {disk : Disk} {directory path : String} {paths : List String} {target : Location}

theorem metadataFiles_ok_iff :
    metadataFiles disk directory = .ok paths ↔
      ∃ origin goal entries, disk.start directory = .ok origin ∧
        Disk.walk disk.root origin (Pathname.names directory) = .ok goal ∧
        disk.root.find? goal = some (.directory entries) ∧
        paths = found directory "" (.directory entries) := by
  have hl := fun entries : List (String × FileTree) =>
    (Disk.locate_ok_iff : disk.locate directory = .ok (.directory entries) ↔ _)
  unfold metadataFiles Disk.entries
  constructor
  · intro h
    split at h
    next entries he =>
      cases hlocate : disk.locate directory with
      | error cause => simp [hlocate, bind, Except.bind] at he
      | ok tree =>
          cases tree with
          | file content =>
              simp [hlocate, bind, Except.bind, throw, throwThe, MonadExceptOf.throw] at he
          | directory inside =>
              simp only [hlocate, bind, Except.bind, pure, Except.pure, Except.ok.injEq] at he
              subst he
              cases h
              obtain ⟨origin, goal, hs, hw, hf, _⟩ := (hl inside).mp hlocate
              exact ⟨origin, goal, inside, hs, hw, hf, rfl⟩
    next => cases h
  · rintro ⟨origin, goal, entries, hs, hw, hf, rfl⟩
    have hlocate := (hl entries).mpr ⟨origin, goal, hs, hw, hf, fun _ => rfl⟩
    simp only [hlocate, bind, Except.bind, pure, Except.pure]

theorem metadataFiles_put (ht : disk.target? path = some target)
    (hd : disk.entryAt target ≠ some .directory) (hgo : Pathname.EndsInGo path)
    (content : ByteArray) (h : metadataFiles disk directory = .ok paths) :
    metadataFiles (disk.put target (.file content)) directory = .ok paths := by
  obtain ⟨front, hgo⟩ := hgo
  have hr := Disk.rewritten_put ht hd content
  obtain ⟨origin, goal, inside, hs, hw, hf, rfl⟩ := metadataFiles_ok_iff.mp h
  obtain ⟨_, folder, name, _, _, hfolder, hlast, _, rfl⟩ := Disk.target?_eq_some_iff.mp ht
  obtain ⟨entries, he⟩ := FileTree.entryAt_eq_directory_iff.mp hfolder
  have hname : isMetadata name = false := by
    cases hlast.symm.trans hgo
    exact isMetadata_append_go front
  have hn : (entries.lookup name).map FileTree.entry ≠ some .directory := by
    rwa [← FileTree.entryAt_append_singleton he]
  obtain ⟨after, hafter, hfound⟩ := find?_put he hn hname hf content
  exact metadataFiles_ok_iff.mpr ⟨origin, goal, after, (hr.start directory).trans hs,
    hr.root.walk hw, hafter, (hfound directory "").symm⟩

theorem not_endsInGo_of_metadataFiles (h : metadataFiles disk directory = .ok paths) :
    ∀ path ∈ paths, ¬ Pathname.EndsInGo path := by
  obtain ⟨_, _, entries, _, _, _, rfl⟩ := metadataFiles_ok_iff.mp h
  exact not_endsInGo_of_mem_found (.directory entries) directory "" fun hm => by
    rw [show isMetadata "" = false by decide] at hm
    cases hm

end Discovery

end StepCommand
