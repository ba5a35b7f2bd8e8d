import StepCommand.Proofs.Discovery.Ways
import StepCommand.Proofs.Pathname.Parents

namespace StepCommand

namespace Pathname

theorem isAbsolute_join {directory : String} (name : String) (hd : directory ≠ "") :
    isAbsolute (join directory name) = isAbsolute directory := by
  have hne : directory.toList ≠ [] := fun h => hd (String.toList_eq_nil_iff.mp h)
  obtain ⟨first, rest, hl⟩ := List.exists_cons_of_ne_nil hne
  unfold join isAbsolute
  split <;> simp [hl]

theorem join_ne_empty {directory : String} (name : String) (hd : directory ≠ "") :
    join directory name ≠ "" := by
  unfold join
  split <;> simp [hd]

theorem steps_join {directory name : String} (hd : directory ≠ "") (hn : IsName name)
    (hdot : name ≠ ".") : steps (join directory name) = steps directory ++ [name] := by
  unfold steps
  rw [names_join directory hn, isAbsolute_join name hd]
  cases names directory with
  | nil => simp [hdot]
  | cons first rest =>
      simp only [List.cons_append, List.filter_append, List.filter_cons, List.filter_nil, hdot,
        ne_eq, not_false_eq_true, decide_true, if_true]
      split <;> rfl

end Pathname

namespace FileTree

theorem IsProper.names {tree : FileTree} {way : Location} (hp : tree.IsProper)
    (h : (tree.entryAt way).isSome) :
    ∀ name ∈ way, Pathname.IsName name ∧ name ≠ "." ∧ name ≠ ".." := by
  induction way generalizing tree with
  | nil => simp
  | cons first way ih =>
      cases tree with
      | file content => simp [entryAt, find?] at h
      | directory entries =>
          cases hl : entries.lookup first with
          | none => simp [entryAt, find?, hl] at h
          | some inner =>
              have hmem := mem_of_lookup hl
              rw [entryAt, find?_cons hl, ← entryAt] at h
              have hfirst := (hp [] entries (find?_nil _)).2 first (List.mem_map_of_mem hmem)
              exact List.forall_mem_cons.mpr ⟨hfirst, ih (hp.inner hmem) h⟩

theorem isProper_file (content : ByteArray) : (file content).IsProper := by
  intro location entries h
  cases location with
  | nil => cases h
  | cons name location => cases h

theorem isProper_directory {entries : List (String × FileTree)}
    (hn : (entries.map Prod.fst).Nodup)
    (hnames : ∀ name ∈ entries.map Prod.fst, Pathname.IsName name ∧ name ≠ "." ∧ name ≠ "..")
    (h : ∀ entry ∈ entries, entry.2.IsProper) : (directory entries).IsProper := by
  intro location inside hi
  cases location with
  | nil =>
      cases hi
      exact ⟨hn, hnames⟩
  | cons name location =>
      simp only [find?] at hi
      split at hi
      next inner hl => exact h _ (mem_of_lookup hl) location inside hi
      next => cases hi

theorem isProper_singleton {name : String} {tree : FileTree}
    (hname : Pathname.IsName name ∧ name ≠ "." ∧ name ≠ "..") (h : tree.IsProper) :
    (directory [(name, tree)]).IsProper :=
  isProper_directory (List.nodup_singleton _)
    (by simpa using hname) (by simpa using h)

-- The entries of a directory may be listed in any order.
theorem entryAt_of_perm {entries inside : List (String × FileTree)}
    (hn : (entries.map Prod.fst).Nodup) (h : inside.Perm entries) (location : Location) :
    (directory inside).entryAt location = (directory entries).entryAt location := by
  cases location with
  | nil => rfl
  | cons name location =>
      have hn' : (inside.map Prod.fst).Nodup := (h.map _).nodup_iff.mpr hn
      have hlookup : inside.lookup name = entries.lookup name := by
        refine Option.ext fun tree => ⟨fun ht => ?_, fun ht => ?_⟩
        · exact lookup_eq_some_of_mem hn (h.mem_iff.mp (mem_of_lookup ht))
        · exact lookup_eq_some_of_mem hn' (h.mem_iff.mpr (mem_of_lookup ht))
      simp only [entryAt, find?, hlookup]

theorem entryAt_of_prefix {tree : FileTree} {outer way : Location} (ho : outer <+: way)
    (hne : outer ≠ way) (h : (tree.entryAt way).isSome) : tree.entryAt outer = some .directory := by
  obtain ⟨rest, rfl⟩ := ho
  obtain ⟨name, rest, rfl⟩ := List.exists_cons_of_ne_nil (l := rest) (by simpa using hne)
  have hbegins : outer ++ [name] <+: outer ++ name :: rest := ⟨rest, by simp⟩
  have hsome := isSome_entryAt_of_prefix hbegins h
  have hinner := entryAt_dropLast (by simp) hsome
  rwa [List.dropLast_concat] at hinner

end FileTree

namespace Discovery

variable {disk : Disk} {directory : String} {entries : List (String × FileTree)} {way : Location}

theorem steps_below (hd : directory ≠ "")
    (h : ∀ name ∈ way, Pathname.IsName name ∧ name ≠ "." ∧ name ≠ "..") :
    Pathname.steps (below directory way) = Pathname.steps directory ++ way := by
  induction way generalizing directory with
  | nil => exact (List.append_nil _).symm
  | cons name way ih =>
      obtain ⟨⟨hname, hdot, _⟩, hrest⟩ := List.forall_mem_cons.mp h
      have hinner := ih (Pathname.join_ne_empty name hd) hrest
      rw [Pathname.steps_join hd hname hdot, List.append_assoc] at hinner
      exact hinner

theorem IsFound.isSome_entryAt {name : String} {tree : FileTree}
    (h : IsFound directory name tree way) : (tree.entryAt way).isSome := by
  rcases h.entry with ⟨content, hentry⟩ | ⟨hentry, _⟩ <;> simp [hentry]

-- A file whose name ends in `.yaml` and is longer than that.
structure IsMetadataFile (tree : FileTree) (way : Location) : Prop where
  file : ∃ content, tree.entryAt way = some (.file content)
  name : ∃ front, front ≠ "" ∧ way.getLast? = some (front ++ ".yaml")

theorem isFound_iff_of_short {tree : FileTree}
    (h : ∀ location, tree.entryAt location = some .directory →
      isShort (below directory location) = true) :
    IsFound directory "" tree way ↔ IsMetadataFile tree way := by
  have hname : isMetadata (way.getLastD "") = true ↔
      ∃ front, front ≠ "" ∧ way.getLast? = some (front ++ ".yaml") := by
    have hempty : isMetadata "" = false := by decide
    rw [List.getLastD_eq_getLast?]
    cases way.getLast? with
    | none => simp [hempty]
    | some name => simp [isMetadata_iff]
  constructor
  · rintro ⟨hmetadata, _, hfile | ⟨hdirectory, hlong⟩⟩
    · exact ⟨hfile, hname.mp hmetadata⟩
    · exact absurd ((h way hdirectory).symm.trans hlong) (by simp)
  · rintro ⟨⟨content, hfile⟩, hmetadata⟩
    refine ⟨hname.mpr hmetadata, fun outer ho hne => h outer ?_, .inl ⟨content, hfile⟩⟩
    exact FileTree.entryAt_of_prefix ho hne (by simp [hfile])

-- What is found below a directory: exactly the metadata files, if no directory is so deep that its
-- path cannot be looked up.
structure IsListing (directory : String) (tree : FileTree) (found : List Location) : Prop where
  mem_iff : ∀ way, way ∈ found ↔ IsFound directory "" tree way
  complete : (∀ location, tree.entryAt location = some .directory →
    isShort (below directory location) = true) → ∀ way, way ∈ found ↔ IsMetadataFile tree way
  increasing : found.Pairwise (· < ·)
  paths : (found.map (below directory)).Pairwise fun path other =>
    Pathname.steps path < Pathname.steps other

theorem isListing_ways {tree : FileTree} (hd : directory ≠ "") (hp : tree.IsProper) :
    IsListing directory tree (ways directory "" tree) := by
  have hmem := fun way => mem_ways_iff tree directory "" way hp
  have hsteps : ∀ way ∈ ways directory "" tree,
      Pathname.steps (below directory way) = Pathname.steps directory ++ way :=
    fun way h => steps_below hd (hp.names ((hmem way).mp h).isSome_entryAt)
  have hincreasing := pairwise_ways tree directory "" hp
  refine ⟨hmem, fun h way => (hmem way).trans (isFound_iff_of_short h), hincreasing, ?_⟩
  rw [List.pairwise_map]
  refine hincreasing.imp_of_mem fun hway hother hlt => ?_
  rw [hsteps _ hway, hsteps _ hother]
  exact List.append_left_lt hlt

theorem IsFound.congr {name : String} {tree other : FileTree}
    (h : ∀ location, other.entryAt location = tree.entryAt location) :
    IsFound directory name other way ↔ IsFound directory name tree way := by
  have hentry := h way
  constructor
  · rintro ⟨hmetadata, hentered, hplace⟩
    exact ⟨hmetadata, hentered, by rwa [hentry] at hplace⟩
  · rintro ⟨hmetadata, hentered, hplace⟩
    exact ⟨hmetadata, hentered, by rwa [hentry]⟩

-- A strictly ascending list is given by its elements.
theorem IsListing.unique {tree other : FileTree} {found again : List Location}
    (h : IsListing directory tree found) (ha : IsListing directory other again)
    (hsame : ∀ location, other.entryAt location = tree.entryAt location) : again = found := by
  refine ha.increasing.eq_of_mem_iff h.increasing fun way => ?_
  rw [ha.mem_iff, h.mem_iff]
  exact IsFound.congr hsame

theorem metadataFiles_of_entries (h : disk.entries directory = .ok entries) :
    metadataFiles disk directory =
      .ok ((ways directory "" (.directory entries)).map (below directory)) := by
  rw [metadataFiles, h, ← found_eq_map_ways]

theorem ne_empty_of_entries (h : disk.entries directory = .ok entries) : directory ≠ "" := by
  rintro rfl
  cases h

-- The other disk may list the same entries in any other order.
theorem metadataFiles_listing (h : disk.entries directory = .ok entries)
    (hp : (FileTree.directory entries).IsProper) :
    ∃ found : List Location, metadataFiles disk directory = .ok (found.map (below directory)) ∧
      IsListing directory (.directory entries) found ∧
      ∀ (other : Disk) (inside : List (String × FileTree)),
        other.entries directory = .ok inside → (FileTree.directory inside).IsProper →
        (∀ location, (FileTree.directory inside).entryAt location =
          (FileTree.directory entries).entryAt location) →
        metadataFiles other directory = metadataFiles disk directory := by
  have hlisting := isListing_ways (ne_empty_of_entries h) hp
  refine ⟨_, metadataFiles_of_entries h, hlisting, fun other inside ho hproper hsame => ?_⟩
  have hother := isListing_ways (ne_empty_of_entries ho) hproper
  rw [metadataFiles_of_entries h, metadataFiles_of_entries ho, hlisting.unique hother hsame]

-- One file stands deeper than the other, in a directory with the name of a file.
theorem metadataFiles_listing_reordered :
    let inner : FileTree := .directory [("z.yaml", .file .empty)]
    let first := [("b.yaml", .file .empty), ("a.yaml", inner)]
    let second := [("a.yaml", inner), ("b.yaml", .file .empty)]
    ∃ found : List Location,
      metadataFiles ⟨.directory [("m", .directory first)], []⟩ "m" =
        .ok (found.map (below "m")) ∧
      IsListing "m" (.directory first) found ∧
      metadataFiles ⟨.directory [("m", .directory second)], []⟩ "m" =
        metadataFiles ⟨.directory [("m", .directory first)], []⟩ "m" := by
  intro inner first second
  have hinner : inner.IsProper :=
    FileTree.isProper_singleton ⟨⟨by decide, by decide⟩, by decide, by decide⟩
      (FileTree.isProper_file _)
  have hnames : ∀ name ∈ ["a.yaml", "b.yaml"],
      Pathname.IsName name ∧ name ≠ "." ∧ name ≠ ".." := by
    intro name hname
    simp only [List.mem_cons, List.not_mem_nil, or_false] at hname
    obtain rfl | rfl := hname
    · exact ⟨⟨by decide, by decide⟩, by decide, by decide⟩
    · exact ⟨⟨by decide, by decide⟩, by decide, by decide⟩
  have hswap : second.Perm first := List.Perm.swap _ _ _
  have hnodup : (first.map Prod.fst).Nodup := by decide
  have hproper : ∀ entries, entries.Perm first → (FileTree.directory entries).IsProper := by
    intro entries hperm
    refine FileTree.isProper_directory ((hperm.map _).nodup_iff.mpr hnodup) ?_ ?_
    · intro name hname
      have hmem := (hperm.map Prod.fst).mem_iff.mp hname
      exact hnames name (by simpa [first, or_comm] using hmem)
    · intro entry he
      have hmem := hperm.mem_iff.mp he
      simp only [first, List.mem_cons, List.not_mem_nil, or_false] at hmem
      obtain rfl | rfl := hmem
      · exact FileTree.isProper_file _
      · exact hinner
  have hentries : ∀ entries, Disk.entries ⟨.directory [("m", .directory entries)], []⟩ "m" =
      .ok entries := fun _ => rfl
  obtain ⟨found, hfound, hlisting, hsame⟩ :=
    metadataFiles_listing (hentries first) (hproper first (.refl _))
  exact ⟨found, hfound, hlisting, hsame _ second (hentries second) (hproper second hswap)
    (FileTree.entryAt_of_perm hnodup hswap)⟩

-- A path may be long without leading far.
def slashes : Nat → String
  | 0 => ""
  | n + 1 => slashes n ++ "/"

theorem utf8ByteSize_slashes (n : Nat) : (slashes n).utf8ByteSize = n := by
  induction n with
  | zero => rfl
  | succ n ih => rw [slashes, String.utf8ByteSize_append, ih]; rfl

theorem names_append_slashes (s : String) (n : Nat) :
    Pathname.names (s ++ slashes n) = Pathname.names s := by
  induction n with
  | zero => rw [slashes, String.append_empty]
  | succ n ih =>
      have hslash := Pathname.names_append_slash (s ++ slashes n) ""
      rw [String.append_empty, Pathname.names_empty, List.append_nil, ih] at hslash
      rw [slashes, ← String.append_assoc, hslash]

theorem join_slashes (s name : String) (n : Nat) :
    Pathname.join (s ++ slashes (n + 1)) name = s ++ slashes (n + 1) ++ name := by
  have hslash : Pathname.endsInSlash (s ++ slashes (n + 1)) = true := by
    simp [Pathname.endsInSlash, slashes, List.getLast?_append]
  rw [Pathname.join, if_pos (.inr hslash)]

-- The working directory holds a directory with a metadata file; `n` slashes lead nowhere else.
theorem metadataFiles_of_long {n : Nat} (hlow : 4089 ≤ n) (hhigh : n < 4095)
    (content : ByteArray) :
    let entries := [("subdir", .directory [("a.yaml", .file content)])]
    Disk.entries ⟨.directory entries, []⟩ ("." ++ slashes n) = .ok entries ∧
      metadataFiles ⟨.directory entries, []⟩ ("." ++ slashes n) = .ok [] := by
  intro entries
  obtain ⟨m, rfl⟩ : ∃ m, n = m + 1 := ⟨n - 1, by omega⟩
  have hsize : ("." ++ slashes (m + 1)).utf8ByteSize = m + 2 := by
    rw [String.utf8ByteSize_append, utf8ByteSize_slashes]
    change 1 + (m + 1) = m + 2
    omega
  have hnames : Pathname.names ("." ++ slashes (m + 1)) = ["."] := by
    rw [names_append_slashes]
    decide
  have hstart : Disk.start ⟨.directory entries, []⟩ ("." ++ slashes (m + 1)) = .ok [] := by
    have habsolute : Pathname.isAbsolute ("." ++ slashes (m + 1)) = false := by
      simp [Pathname.isAbsolute]
    rw [Disk.start, if_neg (by simp), if_neg (by rw [hsize, Disk.maxPath]; omega), habsolute]
    rfl
  have hlocate : Disk.locate ⟨.directory entries, []⟩ ("." ++ slashes (m + 1)) =
      .ok (.directory entries) := by
    have hwalk : Disk.walk (.directory entries) [] ["."] = .ok [] := rfl
    simp only [Disk.locate, hstart, hnames, hwalk, bind, Except.bind, FileTree.find?_nil,
      FileTree.isDirectory, Bool.not_true, Bool.and_false]
    rfl
  have hentries : Disk.entries ⟨.directory entries, []⟩ ("." ++ slashes (m + 1)) = .ok entries := by
    simp only [Disk.entries, hlocate, bind, Except.bind]
    rfl
  refine ⟨hentries, ?_⟩
  have hshort : isShort ("." ++ slashes (m + 1)) = true := by
    simp only [isShort, hsize, Disk.maxPath, decide_eq_true_eq]
    omega
  have hlong : isShort ("." ++ slashes (m + 1) ++ "subdir") = false := by
    have hname : "subdir".utf8ByteSize = 6 := by decide
    rw [isShort, String.utf8ByteSize_append, hsize, hname, Disk.maxPath, decide_eq_false_iff_not]
    omega
  have hmetadata : isMetadata "subdir" = false := by decide
  simp only [metadataFiles, hentries, found, foundIn, hshort, join_slashes, hlong, hmetadata,
    if_true, entries]
  simp

-- The file is passed over, and no directory is reported that could not be read.
theorem metadataFiles_incomplete :
    let entries := [("subdir", .directory [("a.yaml", .file .empty)])]
    let disk : Disk := ⟨.directory entries, []⟩
    let directory := "." ++ slashes 4091
    disk.entries directory = .ok entries ∧ (FileTree.directory entries).IsProper ∧
      IsMetadataFile (.directory entries) ["subdir", "a.yaml"] ∧
      metadataFiles disk directory = .ok [] := by
  intro entries disk directory
  obtain ⟨hentries, hfound⟩ := metadataFiles_of_long (n := 4091) (by decide) (by decide) .empty
  have hfile : ((FileTree.directory entries).entryAt ["subdir", "a.yaml"]) =
      some (.file .empty) := rfl
  refine ⟨hentries, ?_, ⟨⟨_, hfile⟩, "a", by decide, rfl⟩, hfound⟩
  exact FileTree.isProper_singleton ⟨⟨by decide, by decide⟩, by decide, by decide⟩
    (FileTree.isProper_singleton ⟨⟨by decide, by decide⟩, by decide, by decide⟩
      (FileTree.isProper_file _))

end Discovery

end StepCommand
