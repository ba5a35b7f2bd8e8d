import Mathlib.Data.List.Sort
import StepCommand.Proofs.Discovery
import StepCommand.Proofs.Unique
import StepCommand.Proofs.Value.Keys

namespace StepCommand

namespace FileTree

-- Each directory names what is in it once.
def IsProper (tree : FileTree) : Prop :=
  ∀ location entries, tree.find? location = some (.directory entries) →
    (entries.map Prod.fst).Nodup ∧ ∀ name ∈ entries.map Prod.fst,
      Pathname.IsName name ∧ name ≠ "." ∧ name ≠ ".."

theorem find?_cons {entries : List (String × FileTree)} {name : String} {tree : FileTree}
    (h : entries.lookup name = some tree) (location : Location) :
    (directory entries).find? (name :: location) = tree.find? location := by
  simp only [find?, h]

theorem IsProper.nodup {entries : List (String × FileTree)} (h : (directory entries).IsProper) :
    (entries.map Prod.fst).Nodup :=
  (h [] entries (find?_nil _)).1

theorem IsProper.inner {entries : List (String × FileTree)} {name : String} {tree : FileTree}
    (h : (directory entries).IsProper) (ht : (name, tree) ∈ entries) : tree.IsProper :=
  fun location inside hi =>
    h (name :: location) inside ((find?_cons (lookup_eq_some_of_mem h.nodup ht) _).trans hi)

end FileTree

namespace Discovery

-- The path of what a way leads to.
def below (directory : String) (way : Location) : String := way.foldl Pathname.join directory

mutual

def ways (path name : String) : FileTree → List Location
  | .file _ => if isMetadata name then [[]] else []
  | .directory entries =>
      if isShort path then
        ((waysIn path entries).mergeSort Value.byKey).flatMap fun entry =>
          entry.2.map (entry.1 :: ·)
      else if isMetadata name then [[]] else []

def waysIn (directory : String) : List (String × FileTree) → List (String × List Location)
  | [] => []
  | (name, tree) :: rest =>
      (name, ways (Pathname.join directory name) name tree) :: waysIn directory rest

end

def pathsOf (directory : String) (entry : String × List Location) : String × List String :=
  (entry.1, entry.2.map (below (Pathname.join directory entry.1)))

mutual

theorem found_eq_map_ways : ∀ (tree : FileTree) (path name : String),
    found path name tree = (ways path name tree).map (below path)
  | .file _, path, name => by
      rw [found, ways]
      split <;> rfl
  | .directory entries, path, name => by
      rw [found, ways]
      split
      next =>
        have hsort : ((waysIn path entries).mergeSort Value.byKey).map (pathsOf path) =
            ((waysIn path entries).map (pathsOf path)).mergeSort Value.byKey :=
          List.map_mergeSort fun _ _ _ _ => rfl
        rw [foundIn_eq_map_waysIn entries path, ← hsort, List.flatMap_map, List.map_flatMap]
        simp only [List.map_map]
        rfl
      next => split <;> rfl

theorem foundIn_eq_map_waysIn : ∀ (entries : List (String × FileTree)) (directory : String),
    foundIn directory entries = (waysIn directory entries).map (pathsOf directory)
  | [], _ => rfl
  | (name, tree) :: rest, directory => by
      rw [foundIn, waysIn, List.map_cons, found_eq_map_ways tree, foundIn_eq_map_waysIn rest,
        pathsOf]

end

theorem map_fst_waysIn (entries : List (String × FileTree)) (directory : String) :
    (waysIn directory entries).map Prod.fst = entries.map Prod.fst := by
  induction entries with
  | nil => rfl
  | cons entry rest ih => rw [waysIn, List.map_cons, List.map_cons, ih]

theorem mem_waysIn_iff {entries : List (String × FileTree)} {directory name : String}
    {found : List Location} : (name, found) ∈ waysIn directory entries ↔
      ∃ tree, (name, tree) ∈ entries ∧ found = ways (Pathname.join directory name) name tree := by
  induction entries with
  | nil => simp [waysIn]
  | cons entry rest ih =>
      rcases entry with ⟨first, inner⟩
      rw [waysIn, List.mem_cons, ih]
      constructor
      · rintro (h | ⟨tree, ht, rfl⟩)
        · obtain ⟨rfl, rfl⟩ := Prod.mk.inj h
          exact ⟨inner, List.mem_cons_self, rfl⟩
        · exact ⟨tree, List.mem_cons_of_mem _ ht, rfl⟩
      · rintro ⟨tree, ht, rfl⟩
        rcases List.mem_cons.mp ht with h | ht
        · obtain ⟨rfl, rfl⟩ := Prod.mk.inj h
          exact .inl rfl
        · exact .inr ⟨tree, ht, rfl⟩

-- A metadata file, or a directory that is taken for one, in directories that are looked into.
structure IsFound (path name : String) (tree : FileTree) (way : Location) : Prop where
  metadata : isMetadata (way.getLastD name) = true
  entered : ∀ outer, outer <+: way → outer ≠ way → isShort (below path outer) = true
  entry : (∃ content, tree.entryAt way = some (.file content)) ∨
    tree.entryAt way = some .directory ∧ isShort (below path way) = false

variable {entries : List (String × FileTree)} {path name next : String} {tree : FileTree}
  {way : Location}

theorem isFound_file_iff {content : ByteArray} :
    IsFound path name (.file content) way ↔ way = [] ∧ isMetadata name = true := by
  constructor
  · rintro ⟨hmetadata, _, hentry⟩
    cases way with
    | nil => exact ⟨rfl, hmetadata⟩
    | cons next way => simp [FileTree.entryAt, FileTree.find?] at hentry
  · rintro ⟨rfl, hmetadata⟩
    exact ⟨hmetadata, by simp, .inl ⟨content, rfl⟩⟩

theorem isFound_long_iff (h : isShort path = false) :
    IsFound path name (.directory entries) way ↔ way = [] ∧ isMetadata name = true := by
  constructor
  · rintro ⟨hmetadata, hentered, _⟩
    cases way with
    | nil => exact ⟨rfl, hmetadata⟩
    | cons next way =>
        have hshort : isShort path = true := hentered [] List.nil_prefix (by simp)
        simp [h] at hshort
  · rintro ⟨rfl, hmetadata⟩
    exact ⟨hmetadata, by simp, .inr ⟨rfl, h⟩⟩

theorem not_isFound_nil (h : isShort path = true) :
    ¬IsFound path name (.directory entries) [] := by
  rintro ⟨_, _, ⟨content, hentry⟩ | ⟨_, hlong⟩⟩
  · simp [FileTree.entryAt, FileTree.find?, FileTree.entry] at hentry
  · exact absurd (h.symm.trans hlong) (by simp)

theorem entryAt_cons (h : entries.lookup next = some tree) (way : Location) :
    (FileTree.directory entries).entryAt (next :: way) = tree.entryAt way := by
  rw [FileTree.entryAt, FileTree.find?_cons h, FileTree.entryAt]

theorem isFound_cons_iff (h : isShort path = true) :
    IsFound path name (.directory entries) (next :: way) ↔
      ∃ tree, entries.lookup next = some tree ∧
        IsFound (Pathname.join path next) next tree way := by
  constructor
  · rintro ⟨hmetadata, hentered, hentry⟩
    cases hl : entries.lookup next with
    | none => simp [FileTree.entryAt, FileTree.find?, hl] at hentry
    | some tree =>
        rw [entryAt_cons hl] at hentry
        refine ⟨tree, rfl, by rwa [List.getLastD_cons] at hmetadata, fun outer ho hne => ?_, hentry⟩
        exact hentered (next :: outer) (List.cons_prefix_cons.mpr ⟨rfl, ho⟩) (by simpa using hne)
  · rintro ⟨tree, hl, hmetadata, hentered, hentry⟩
    rw [← entryAt_cons hl] at hentry
    refine ⟨by rwa [List.getLastD_cons], fun outer ho hne => ?_, hentry⟩
    cases outer with
    | nil => exact h
    | cons first outer =>
        obtain ⟨rfl, houter⟩ := List.cons_prefix_cons.mp ho
        exact hentered outer houter fun he => hne (by rw [he])

theorem mem_ite_iff :
    way ∈ (if isMetadata name then [[]] else []) ↔ way = [] ∧ isMetadata name = true := by
  split <;> simp_all

theorem cons_mem_ways_iff (h : isShort path = true) :
    next :: way ∈ ways path name (.directory entries) ↔
      ∃ tree, (next, tree) ∈ entries ∧ way ∈ ways (Pathname.join path next) next tree := by
  simp only [ways, h, if_true, List.mem_flatMap, List.mem_mergeSort, List.mem_map,
    List.cons.injEq]
  constructor
  · rintro ⟨⟨_, _⟩, hmem, way, hway, rfl, rfl⟩
    obtain ⟨tree, ht, rfl⟩ := mem_waysIn_iff.mp hmem
    exact ⟨tree, ht, hway⟩
  · rintro ⟨tree, ht, hway⟩
    exact ⟨(next, _), mem_waysIn_iff.mpr ⟨tree, ht, rfl⟩, way, hway, rfl, rfl⟩

theorem nil_notMem_ways (h : isShort path = true) : [] ∉ ways path name (.directory entries) := by
  simp [ways, h]

mutual

theorem mem_ways_iff : ∀ (tree : FileTree) (path name : String) (way : Location), tree.IsProper →
    (way ∈ ways path name tree ↔ IsFound path name tree way)
  | .file content, path, name, way, _ => by
      rw [isFound_file_iff, ways, mem_ite_iff]
  | .directory entries, path, name, way, hp => by
      cases h : isShort path with
      | false =>
          rw [isFound_long_iff h, ways, h, if_neg Bool.false_ne_true, mem_ite_iff]
      | true =>
          cases way with
          | nil => exact iff_of_false (nil_notMem_ways h) (not_isFound_nil h)
          | cons next way =>
              rw [cons_mem_ways_iff h, isFound_cons_iff h]
              have hinner : ∀ tree, (next, tree) ∈ entries → tree.IsProper := fun _ => hp.inner
              constructor
              · rintro ⟨tree, ht, hway⟩
                exact ⟨tree, lookup_eq_some_of_mem hp.nodup ht,
                  (mem_ways_iff_of_mem entries next tree _ way ht (hinner tree ht)).mp hway⟩
              · rintro ⟨tree, hl, hway⟩
                have ht := mem_of_lookup hl
                exact ⟨tree, ht,
                  (mem_ways_iff_of_mem entries next tree _ way ht (hinner tree ht)).mpr hway⟩

theorem mem_ways_iff_of_mem : ∀ (entries : List (String × FileTree)) (name : String)
    (tree : FileTree) (path : String) (way : Location), (name, tree) ∈ entries → tree.IsProper →
    (way ∈ ways path name tree ↔ IsFound path name tree way)
  | [], _, _, _, _, h, _ => absurd h List.not_mem_nil
  | (_, first) :: rest, name, tree, path, way, h, hp => by
      rcases List.mem_cons.mp h with he | h
      · have hfirst := mem_ways_iff first path name way
        obtain ⟨rfl, rfl⟩ := Prod.mk.inj he
        exact hfirst hp
      · exact mem_ways_iff_of_mem rest name tree path way h hp

end

mutual

-- Ways through different entries differ in their first names, others further in.
theorem pairwise_ways : ∀ (tree : FileTree) (path name : String), tree.IsProper →
    (ways path name tree).Pairwise (· < ·)
  | .file _, _, _, _ => by
      rw [ways]
      split <;> simp
  | .directory entries, path, name, hp => by
      rw [ways]
      split
      next =>
        have hkeys : ((waysIn path entries).map Prod.fst).Nodup := by
          rw [map_fst_waysIn]
          exact hp.nodup
        refine List.pairwise_flatMap.mpr ⟨fun entry he => ?_, ?_⟩
        · obtain ⟨tree, ht, hways⟩ := mem_waysIn_iff.mp (List.mem_mergeSort.mp he)
          rw [hways, List.pairwise_map]
          have hinner := pairwise_ways_of_mem entries entry.1 tree
            (Pathname.join path entry.1) ht (hp.inner ht)
          exact hinner.imp fun h => List.cons_lt_cons_iff.mpr (.inr ⟨rfl, h⟩)
        · refine (Value.pairwise_byKey hkeys).imp fun hlt way hway other hother => ?_
          obtain ⟨_, _, rfl⟩ := List.mem_map.mp hway
          obtain ⟨_, _, rfl⟩ := List.mem_map.mp hother
          exact List.cons_lt_cons_iff.mpr (.inl hlt)
      next => split <;> simp

theorem pairwise_ways_of_mem : ∀ (entries : List (String × FileTree)) (name : String)
    (tree : FileTree) (path : String), (name, tree) ∈ entries → tree.IsProper →
    (ways path name tree).Pairwise (· < ·)
  | [], _, _, _, h, _ => absurd h List.not_mem_nil
  | (_, first) :: rest, name, tree, path, h, hp => by
      rcases List.mem_cons.mp h with he | h
      · have hfirst := pairwise_ways first path name
        obtain ⟨rfl, rfl⟩ := Prod.mk.inj he
        exact hfirst hp
      · exact pairwise_ways_of_mem rest name tree path h hp

end

end Discovery

end StepCommand
