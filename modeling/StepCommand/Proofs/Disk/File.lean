import StepCommand.Proofs.Disk.Walk
import StepCommand.Proofs.Pathname

namespace StepCommand.Disk

open FileTree (Entry)

variable {disk before after : Disk} {path : String} {location target folder origin : Location}
  {content : ByteArray}

def entryAt (disk : Disk) (location : Location) : Option Entry := disk.root.entryAt location

-- Where a file at a path is, or would be if it were made.
def target? (disk : Disk) (path : String) : Option Location :=
  match disk.place path with
  | .ok (folder, _, some name) => some (folder ++ [name])
  | _ => none

theorem entriesAt_ok_iff {root : FileTree} {entries : List (String × FileTree)} :
    entriesAt root location = .ok entries ↔ root.find? location = some (.directory entries) := by
  unfold entriesAt
  split
  next found hf => simp [hf]
  next hf => simp [hf]
  next hf => simp [hf]

theorem place_ok_iff {entries : List (String × FileTree)} {last : Option String} :
    disk.place path = .ok (folder, entries, last) ↔
      ∃ origin, disk.start path = .ok origin ∧
        walk disk.root origin (Pathname.names path).dropLast = .ok folder ∧
        disk.root.find? folder = some (.directory entries) ∧
        last = (Pathname.names path).getLast?.filter fun name => name ≠ "." ∧ name ≠ ".." := by
  simp only [place, bind, Except.bind]
  cases disk.start path with
  | error cause => simp
  | ok origin =>
      cases hw : walk disk.root origin (Pathname.names path).dropLast with
      | error cause => simp [hw]
      | ok location =>
          simp only [hw, Except.ok.injEq, exists_eq_left']
          cases he : entriesAt disk.root location with
          | error cause =>
              simp only [reduceCtorEq, false_iff, not_and]
              rintro rfl hf
              rw [entriesAt_ok_iff.mpr hf] at he
              cases he
          | ok found =>
              have hf := entriesAt_ok_iff.mp he
              simp only [pure, Except.pure, Except.ok.injEq, Prod.mk.injEq]
              constructor
              · rintro ⟨rfl, rfl, rfl⟩
                exact ⟨rfl, hf, rfl⟩
              · rintro ⟨rfl, hfolder, rfl⟩
                simp only [hf, Option.some.injEq, FileTree.directory.injEq] at hfolder
                exact ⟨rfl, hfolder, rfl⟩

theorem target?_eq_some_iff :
    disk.target? path = some target ↔
      ∃ origin folder name, disk.start path = .ok origin ∧
        walk disk.root origin (Pathname.names path).dropLast = .ok folder ∧
        disk.entryAt folder = some .directory ∧ (Pathname.names path).getLast? = some name ∧
        (name ≠ "." ∧ name ≠ "..") ∧ target = folder ++ [name] := by
  unfold target?
  constructor
  · intro h
    split at h
    next folder entries name hp =>
      cases h
      obtain ⟨origin, hs, hw, hf, hl⟩ := place_ok_iff.mp hp
      obtain ⟨hlast, hname⟩ := Option.filter_eq_some_iff.mp hl.symm
      exact ⟨origin, folder, name, hs, hw, FileTree.entryAt_eq_directory_iff.mpr ⟨entries, hf⟩,
        hlast, by simpa using hname, rfl⟩
    next => cases h
  · rintro ⟨origin, folder, name, hs, hw, hd, hlast, hname, rfl⟩
    obtain ⟨entries, hf⟩ := FileTree.entryAt_eq_directory_iff.mp hd
    have hp : disk.place path = .ok (folder, entries, some name) :=
      place_ok_iff.mpr ⟨origin, hs, hw, hf,
        (Option.filter_eq_some_iff.mpr ⟨hlast, by simp [hname]⟩).symm⟩
    rw [hp]

theorem getLast?_of_target? (h : disk.target? path = some target) :
    target.getLast? = (Pathname.names path).getLast? := by
  obtain ⟨_, _, name, _, _, _, hlast, _, rfl⟩ := target?_eq_some_iff.mp h
  simp [hlast]

theorem locate_ok_iff {tree : FileTree} :
    disk.locate path = .ok tree ↔
      ∃ origin goal, disk.start path = .ok origin ∧
        walk disk.root origin (Pathname.names path) = .ok goal ∧
        disk.root.find? goal = some tree ∧
        (Pathname.endsInSlash path = true → tree.isDirectory = true) := by
  simp only [locate, bind, Except.bind]
  cases disk.start path with
  | error cause => simp
  | ok origin =>
      cases hw : walk disk.root origin (Pathname.names path) with
      | error cause => simp [hw]
      | ok goal =>
          simp only [hw, Except.ok.injEq, exists_and_left, exists_eq_left']
          cases disk.root.find? goal with
          | none => simp [throw, throwThe, MonadExceptOf.throw]
          | some found =>
              cases hs : Pathname.endsInSlash path <;> cases hd : found.isDirectory <;>
                simp [throw, throwThe, MonadExceptOf.throw, pure, Except.pure, hd]
              · rintro rfl
                exact hd
              · rintro rfl
                simp [hd]

theorem isDirectory?_iff :
    disk.isDirectory? path = true ↔
      ∃ origin goal, disk.start path = .ok origin ∧
        walk disk.root origin (Pathname.names path) = .ok goal ∧
        disk.entryAt goal = some .directory := by
  unfold isDirectory?
  constructor
  · intro h
    split at h
    next tree hl =>
      obtain ⟨origin, goal, hs, hw, hf, _⟩ := locate_ok_iff.mp hl
      cases tree with
      | file content => cases h
      | directory entries =>
          exact ⟨origin, goal, hs, hw, FileTree.entryAt_eq_directory_iff.mpr ⟨entries, hf⟩⟩
    next => cases h
  · rintro ⟨origin, goal, hs, hw, hd⟩
    obtain ⟨entries, hf⟩ := FileTree.entryAt_eq_directory_iff.mp hd
    rw [locate_ok_iff.mpr ⟨origin, goal, hs, hw, hf, fun _ => rfl⟩]
    rfl

theorem read_ok_iff :
    disk.read path = .ok content ↔
      ∃ origin goal, disk.start path = .ok origin ∧
        walk disk.root origin (Pathname.names path) = .ok goal ∧
        disk.entryAt goal = some (.file content) ∧ Pathname.endsInSlash path = false := by
  simp only [read, bind, Except.bind]
  constructor
  · intro h
    split at h
    next => cases h
    next tree hl =>
      obtain ⟨origin, goal, hs, hw, hf, hslash⟩ := locate_ok_iff.mp hl
      cases tree with
      | directory entries => cases h
      | file found =>
          cases h
          exact ⟨origin, goal, hs, hw, FileTree.entryAt_eq_file_iff.mpr hf, by
            simpa [FileTree.isDirectory] using hslash⟩
  · rintro ⟨origin, goal, hs, hw, hf, hslash⟩
    rw [locate_ok_iff.mpr ⟨origin, goal, hs, hw, FileTree.entryAt_eq_file_iff.mp hf, by
      simp [hslash]⟩]
    rfl

theorem readText_ok_iff {text : String} :
    disk.readText path = .ok text ↔
      ∃ content, disk.read path = .ok content ∧ String.fromUTF8? content = some text := by
  simp only [readText, bind, Except.bind]
  cases disk.read path with
  | error cause => simp
  | ok content =>
      cases hc : String.fromUTF8? content with
      | none => simp [hc, throw, throwThe, MonadExceptOf.throw]
      | some found => simp [hc, pure, Except.pure]

theorem target?_of_exists? (hnames : Pathname.NamesFile path) (h : disk.exists? path = true) :
    ∃ target, disk.target? path = some target ∧ (disk.entryAt target).isSome := by
  obtain ⟨name, hlast, hname⟩ := hnames.last
  obtain ⟨front, hfront⟩ := List.getLast?_eq_some_iff.mp hlast
  cases hl : disk.locate path with
  | error cause => simp [exists?, hl, Except.isOk, Except.toBool] at h
  | ok tree =>
      obtain ⟨origin, goal, hs, hw, hf, _⟩ := locate_ok_iff.mp hl
      rw [hfront, walk_append] at hw
      cases hd : walk disk.root origin front with
      | error cause => simp [hd, Except.bind] at hw
      | ok folder =>
          simp only [hd, Except.bind, walk_singleton] at hw
          obtain ⟨hdirectory, hgoal⟩ := step_ok_iff.mp hw
          simp only [hname.1, hname.2, false_and, false_or] at hgoal
          obtain ⟨_, rfl, hsome⟩ := hgoal
          exact ⟨_, target?_eq_some_iff.mpr ⟨origin, folder, name, hs, by
            rw [hfront, List.dropLast_concat, hd], hdirectory, hlast, hname, rfl⟩, hsome⟩

-- What is found at a path is what is where its file would be.
theorem locate_ok_iff_of_target? {tree : FileTree} (ht : disk.target? path = some target)
    (hslash : Pathname.endsInSlash path = false)
    (hsize : ∀ name ∈ (Pathname.names path).getLast?, name.utf8ByteSize ≤ maxName) :
    disk.locate path = .ok tree ↔ disk.root.find? target = some tree := by
  obtain ⟨origin, folder, name, hs, hw, hd, hlast, hname, rfl⟩ := target?_eq_some_iff.mp ht
  obtain ⟨front, hfront⟩ := List.getLast?_eq_some_iff.mp hlast
  rw [hfront, List.dropLast_concat] at hw
  have hwalk : walk disk.root origin (Pathname.names path) = step disk.root folder name := by
    rw [hfront, walk_append, hw]
    simp only [Except.bind, walk_singleton]
  constructor
  · intro hl
    obtain ⟨other, goal, hs', hw', hf, _⟩ := locate_ok_iff.mp hl
    rw [hs] at hs'
    cases hs'
    rw [hwalk] at hw'
    obtain ⟨_, hgoal⟩ := step_ok_iff.mp hw'
    simp only [hname.1, hname.2, false_and, false_or] at hgoal
    obtain ⟨_, rfl, _⟩ := hgoal
    exact hf
  · intro hf
    have hstep : step disk.root folder name = .ok (folder ++ [name]) :=
      step_ok_iff.mpr ⟨hd, .inr (.inr ⟨⟨hname.1, hname.2, hsize name hlast⟩, rfl, by
        simp [FileTree.entryAt, hf]⟩)⟩
    exact locate_ok_iff.mpr ⟨origin, _, hs, hwalk.trans hstep, hf, by simp [hslash]⟩

theorem exists?_of_target? (ht : disk.target? path = some target)
    (hslash : Pathname.endsInSlash path = false)
    (hsize : ∀ name ∈ (Pathname.names path).getLast?, name.utf8ByteSize ≤ maxName)
    (h : (disk.entryAt target).isSome) : disk.exists? path = true := by
  obtain ⟨tree, hf⟩ : ∃ tree, disk.root.find? target = some tree := by
    simpa [entryAt, FileTree.entryAt, Option.isSome_iff_exists] using h
  have hl := (locate_ok_iff_of_target? ht hslash hsize).mpr hf
  simp [exists?, hl, Except.isOk, Except.toBool]

-- What is at a path, without what is in it if it is a directory.
def entryOf (disk : Disk) (path : String) : Option Entry :=
  (disk.locate path).toOption.map FileTree.entry

theorem entryOf_eq (ht : disk.target? path = some target)
    (hslash : Pathname.endsInSlash path = false)
    (hsize : ∀ name ∈ (Pathname.names path).getLast?, name.utf8ByteSize ≤ maxName) :
    disk.entryOf path = disk.entryAt target := by
  have hl : ∀ tree, disk.locate path = .ok tree ↔ disk.root.find? target = some tree :=
    fun _ => locate_ok_iff_of_target? ht hslash hsize
  unfold entryOf entryAt FileTree.entryAt
  cases hlocate : disk.locate path with
  | ok tree =>
      rw [(hl tree).mp hlocate]
      rfl
  | error cause =>
      cases hf : disk.root.find? target with
      | none => rfl
      | some tree =>
          rw [(hl tree).mpr hf] at hlocate
          cases hlocate

-- What there is has a name that is not too long.
theorem size_of_exists? {name : String} (hlast : (Pathname.names path).getLast? = some name)
    (hname : name ≠ "." ∧ name ≠ "..") (h : disk.exists? path = true) :
    name.utf8ByteSize ≤ maxName := by
  cases hl : disk.locate path with
  | error cause => simp [exists?, hl, Except.isOk, Except.toBool] at h
  | ok tree =>
      obtain ⟨origin, goal, _, hw, _, _⟩ := locate_ok_iff.mp hl
      obtain ⟨front, hfront⟩ := List.getLast?_eq_some_iff.mp hlast
      rw [hfront, walk_append] at hw
      cases hd : walk disk.root origin front with
      | error cause => simp [hd, Except.bind] at hw
      | ok folder =>
          simp only [hd, Except.bind, walk_singleton] at hw
          obtain ⟨_, hgoal⟩ := step_ok_iff.mp hw
          simp only [hname.1, hname.2, false_and, false_or] at hgoal
          exact hgoal.1.2.2

theorem start_of_start_join {directory name : String} (hne : directory ≠ "")
    (h : disk.start (Pathname.join directory name) = .ok origin) :
    disk.start directory = .ok origin := by
  have hextends : ∃ rest, Pathname.join directory name = directory ++ rest := by
    unfold Pathname.join
    split
    · exact ⟨name, rfl⟩
    · exact ⟨"/" ++ name, String.append_assoc⟩
  obtain ⟨rest, hrest⟩ := hextends
  have hroot : Pathname.isAbsolute (directory ++ rest) = Pathname.isAbsolute directory := by
    obtain ⟨c, more, hc⟩ : ∃ c more, directory.toList = c :: more :=
      List.exists_cons_of_ne_nil fun hnil => hne (String.toList_eq_nil_iff.mp hnil)
    simp [Pathname.isAbsolute, hc]
  rw [hrest] at h
  unfold start at h ⊢
  rw [if_neg hne]
  split at h
  · cases h
  · split at h
    · cases h
    · rename_i hsize
      rw [String.utf8ByteSize_append] at hsize
      rw [if_neg (by omega), ← hroot]
      exact h

theorem start_of_isName {name : String} (hname : Pathname.IsName name)
    (h : disk.start name = .ok origin) : origin = disk.here := by
  have hrelative : Pathname.isAbsolute name = false := by
    unfold Pathname.isAbsolute
    cases hl : name.toList with
    | nil => rfl
    | cons c rest =>
        have hslash := hname.slash
        rw [hl] at hslash
        have hne : c ≠ '/' := fun heq => hslash (heq ▸ List.mem_cons_self)
        simp [hne]
  unfold start at h
  split at h
  · cases h
  · split at h
    · cases h
    · rw [hrelative] at h
      exact (Except.ok.inj h).symm

theorem write_ok_iff :
    disk.write path content = .ok after ↔
      ∃ target, disk.target? path = some target ∧ Pathname.endsInSlash path = false ∧
        (∀ name ∈ (Pathname.names path).getLast?, name.utf8ByteSize ≤ maxName) ∧
        disk.entryAt target ≠ some .directory ∧ after = disk.put target (.file content) := by
  simp only [write, target?, bind, Except.bind]
  cases hp : disk.place path with
  | error cause => simp
  | ok found =>
      obtain ⟨folder, entries, last⟩ := found
      obtain ⟨_, _, _, hf, hl⟩ := place_ok_iff.mp hp
      cases last with
      | none => simp [throw, throwThe, MonadExceptOf.throw]
      | some name =>
          have hlast := (Option.filter_eq_some_iff.mp hl.symm).1
          have he := FileTree.entryAt_append_singleton hf name
          cases hslash : Pathname.endsInSlash path with
          | true => simp [throw, throwThe, MonadExceptOf.throw]
          | false =>
              by_cases hsize : name.utf8ByteSize > maxName
              · simp [find, hsize, hlast, Nat.not_le.mpr hsize]
              · cases hlook : entries.lookup name with
                | none =>
                    simp [find, hsize, hlast, Nat.not_lt.mp hsize, hlook, entryAt, he, pure,
                      Except.pure, eq_comm]
                | some tree =>
                    cases tree <;>
                      simp [find, hsize, hlast, Nat.not_lt.mp hsize, hlook, entryAt, he, pure,
                        Except.pure, eq_comm, FileTree.entry, throw, throwThe,
                        MonadExceptOf.throw]

-- One disk differs from the other in one file alone, which may be new.
structure Rewritten (target : Location) (before after : Disk) : Prop where
  root : Walk.Rewritten target before.root after.root
  here : after.here = before.here

theorem entryAt_put (ht : disk.target? path = some target)
    (hd : disk.entryAt target ≠ some .directory) (content : ByteArray) (location : Location) :
    (disk.put target (.file content)).entryAt location =
      if location = target then some (.file content) else disk.entryAt location := by
  obtain ⟨_, folder, name, _, _, hfolder, _, _, rfl⟩ := target?_eq_some_iff.mp ht
  obtain ⟨entries, hf⟩ := FileTree.entryAt_eq_directory_iff.mp hfolder
  refine FileTree.entryAt_put hf ?_ (fun _ _ => rfl) location
  rwa [← FileTree.entryAt_append_singleton hf]

theorem rewritten_put (ht : disk.target? path = some target)
    (hd : disk.entryAt target ≠ some .directory) (content : ByteArray) :
    Rewritten target disk (disk.put target (.file content)) where
  root := {
    other := fun location hne => by
      have h := entryAt_put ht hd content location
      rwa [if_neg hne] at h
    replaced := hd
    written := ⟨content, by
      have h := entryAt_put ht hd content target
      rwa [if_pos rfl] at h⟩ }
  here := rfl

namespace Rewritten

theorem start (hr : Rewritten target before after) (path : String) :
    after.start path = before.start path := by
  simp only [Disk.start, hr.here]

theorem target?_eq_some (hr : Rewritten target before after) {path : String}
    (h : before.target? path = some location) : after.target? path = some location := by
  obtain ⟨origin, folder, name, hs, hw, hd, hrest⟩ := target?_eq_some_iff.mp h
  exact target?_eq_some_iff.mpr ⟨origin, folder, name, (hr.start path).trans hs, hr.root.walk hw,
    (hr.root.directory_iff folder).mpr hd, hrest⟩

-- The directories lead to the same places before and after.
theorem target? (hr : Rewritten target before after) (path : String) :
    after.target? path = before.target? path := by
  ext location
  constructor
  · intro h
    obtain ⟨origin, folder, name, hs, hw, hd, hrest⟩ := target?_eq_some_iff.mp h
    have hfolder := (hr.root.directory_iff folder).mp hd
    refine target?_eq_some_iff.mpr ⟨origin, folder, name, (hr.start path).symm.trans hs,
      hr.root.walk_back hw ?_, hfolder, hrest⟩
    rintro rfl
    exact hr.root.replaced hfolder
  · exact hr.target?_eq_some

theorem isDirectory? (hr : Rewritten target before after) {path : String}
    (h : before.isDirectory? path = true) : after.isDirectory? path = true := by
  obtain ⟨origin, goal, hs, hw, hd⟩ := isDirectory?_iff.mp h
  exact isDirectory?_iff.mpr ⟨origin, goal, (hr.start path).trans hs, hr.root.walk hw,
    (hr.root.directory_iff goal).mpr hd⟩

theorem exists? (hr : Rewritten target before after) {path : String}
    (h : before.exists? path = true) : after.exists? path = true := by
  cases hl : before.locate path with
  | error cause => simp [Disk.exists?, hl, Except.isOk, Except.toBool] at h
  | ok tree =>
      obtain ⟨origin, goal, hs, hw, hf, hslash⟩ := locate_ok_iff.mp hl
      have hsome : (before.root.entryAt goal).isSome := by simp [FileTree.entryAt, hf]
      obtain ⟨found, hfound⟩ : ∃ found, after.root.find? goal = some found := by
        simpa [FileTree.entryAt, Option.isSome_iff_exists] using hr.root.isSome hsome
      have hdirectory : Pathname.endsInSlash path = true → found.isDirectory = true := by
        intro he
        cases tree with
        | file content => simp [FileTree.isDirectory] at hslash; simp [hslash] at he
        | directory entries =>
            have hd := (hr.root.directory_iff goal).mpr
              (FileTree.entryAt_eq_directory_iff.mpr ⟨entries, hf⟩)
            obtain ⟨inner, hi⟩ := FileTree.entryAt_eq_directory_iff.mp hd
            rw [hfound] at hi
            cases hi
            rfl
      have hlocate := locate_ok_iff.mpr
        ⟨origin, goal, (hr.start path).trans hs, hr.root.walk hw, hfound, hdirectory⟩
      simp [Disk.exists?, hlocate, Except.isOk, Except.toBool]

-- A file at a path of another name is another file.
theorem read_iff (hr : Rewritten target before after) {path : String} (hne : target ≠ [])
    (hlast : (Pathname.names path).getLast? ≠ target.getLast?) :
    after.read path = .ok content ↔ before.read path = .ok content := by
  have hgoal : ∀ {disk : Disk} {origin goal : Location}, disk.start path = .ok origin →
      walk disk.root origin (Pathname.names path) = .ok goal →
      disk.entryAt goal = some (.file content) → Pathname.endsInSlash path = false →
      goal ≠ target := by
    intro disk origin goal hs hw hf hslash
    by_cases hnames : Pathname.names path = []
    · rw [hnames] at hw
      cases hw
      have hempty : path ≠ "" := by
        rintro rfl
        simp [Disk.start] at hs
      have habsolute := Pathname.isAbsolute_of_names_eq_nil hempty hnames
      simp only [Disk.start, hempty, if_false, habsolute, if_true] at hs
      split at hs
      · cases hs
      · cases hs
        exact hne.symm
    · rintro rfl
      exact hlast (goal_of_walk_file hnames hw hf).symm
  simp only [read_ok_iff]
  constructor
  · rintro ⟨origin, goal, hs, hw, hf, hslash⟩
    have hother := hgoal hs hw hf hslash
    exact ⟨origin, goal, (hr.start path).symm.trans hs, hr.root.walk_back hw hother,
      (hr.root.other goal hother).symm.trans hf, hslash⟩
  · rintro ⟨origin, goal, hs, hw, hf, hslash⟩
    exact ⟨origin, goal, (hr.start path).trans hs, hr.root.walk hw,
      (hr.root.other goal (hgoal hs hw hf hslash)).trans hf, hslash⟩

theorem readText_iff (hr : Rewritten target before after) {path text : String}
    (hne : target ≠ []) (hlast : (Pathname.names path).getLast? ≠ target.getLast?) :
    after.readText path = .ok text ↔ before.readText path = .ok text := by
  simp only [readText_ok_iff, hr.read_iff hne hlast]

end Rewritten

-- What has been written is read.
theorem read_of_write (h : disk.write path content = .ok after) :
    after.read path = .ok content := by
  obtain ⟨target, ht, hslash, hsize, hd, rfl⟩ := write_ok_iff.mp h
  have htarget := (rewritten_put ht hd content).target?_eq_some ht
  have hentry : (disk.put target (.file content)).entryAt target = some (.file content) := by
    rw [entryAt_put ht hd, if_pos rfl]
  have hlocate := (locate_ok_iff_of_target? htarget hslash hsize).mpr
    (FileTree.entryAt_eq_file_iff.mp hentry)
  rw [read, hlocate]
  rfl

theorem fromUTF8?_toUTF8 (text : String) : String.fromUTF8? text.toUTF8 = some text := by
  rw [String.fromUTF8?, String.toUTF8_eq_toByteArray, dif_pos text.isValidUTF8]
  rfl

theorem readText_of_write {text : String} (h : disk.write path text.toUTF8 = .ok after) :
    after.readText path = .ok text :=
  readText_ok_iff.mpr ⟨text.toUTF8, read_of_write h, fromUTF8?_toUTF8 text⟩

end StepCommand.Disk
