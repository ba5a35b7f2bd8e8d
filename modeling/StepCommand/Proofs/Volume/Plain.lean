import StepCommand.Proofs.Disk.File
import StepCommand.Proofs.Generator.Alike
import StepCommand.Proofs.Volume.Follow

namespace StepCommand.Volume

open Disk (Cause)

-- A volume without links, on which everything may be read and written.
def ofDisk (disk : Disk) : Volume := { disk := disk }

variable {disk : Disk} {location : Location} {names : List String} {path : String}
  {f : Location → List String → Except Cause Location} {α : Type}

theorem enter_ofDisk (disk : Disk) (location : Location) :
    (ofDisk disk).enter location = (Disk.entriesAt disk.root location).map fun _ => () := by
  unfold enter ofDisk
  cases Disk.entriesAt disk.root location <;> rfl

theorem walk_cons_ofDisk (name : String) (rest : List String) :
    (ofDisk disk).walk f location (name :: rest) =
      ((ofDisk disk).enter location).bind fun _ =>
        if name = "." then (ofDisk disk).walk f location rest
        else if name = ".." then (ofDisk disk).walk f location.dropLast rest
        else if name.utf8ByteSize > Disk.maxName then .error .nameTooLong
        else (ofDisk disk).walk f (location ++ [name]) rest := rfl

theorem exists_follow_eq_walk (v : Volume) (count : Nat) : ∃ f, v.follow count = v.walk f :=
  ⟨_, follow_eq_onward v count⟩

theorem walk_append_ofDisk (names rest : List String) :
    (ofDisk disk).walk f location (names ++ rest) =
      ((ofDisk disk).walk f location names).bind fun place =>
        (ofDisk disk).walk f place rest := by
  induction names generalizing location with
  | nil => rfl
  | cons name names ih =>
      rw [List.cons_append, walk_cons_ofDisk, walk_cons_ofDisk]
      cases (ofDisk disk).enter location with
      | error cause => rfl
      | ok entered =>
          simp only [Except.bind]
          split_ifs with hdot hdots hsize
          · exact ih
          · exact ih
          · rfl
          · exact ih

-- What is not there is noticed when it is entered.
theorem walk_of_none (h : disk.root.find? location = none) (k : Location → Except Cause α) :
    (((ofDisk disk).walk f location names).bind fun place =>
      (Disk.entriesAt disk.root place).bind fun _ => k place) = .error .notFound := by
  have hentries : Disk.entriesAt disk.root location = .error .notFound := by
    unfold Disk.entriesAt
    rw [h]
  cases names with
  | nil =>
      simp only [walk, Except.bind, hentries]
  | cons name rest =>
      rw [walk_cons_ofDisk, enter_ofDisk, hentries]
      rfl

-- A directory is found by both in the same way.
theorem walk_ofDisk (k : Location → Except Cause α) :
    (((ofDisk disk).walk f location names).bind fun place =>
      (Disk.entriesAt disk.root place).bind fun _ => k place) =
    (Disk.walk disk.root location names).bind fun place =>
      (Disk.entriesAt disk.root place).bind fun _ => k place := by
  induction names generalizing location with
  | nil => rfl
  | cons name rest ih =>
      rw [walk_cons_ofDisk, enter_ofDisk, Disk.walk, Disk.step]
      cases he : Disk.entriesAt disk.root location with
      | error cause => rfl
      | ok entries =>
          simp only [Except.map, Except.bind, bind, pure, Except.pure]
          split_ifs with hdot hdots hsize
          · exact ih
          · exact ih
          · simp only [Disk.find, hsize, if_true]
          · simp only [Disk.find, hsize, if_false]
            cases hlookup : entries.lookup name with
            | some tree => exact ih
            | none =>
                have hf := Disk.entriesAt_ok_iff.mp he
                exact walk_of_none ((FileTree.find?_append_singleton hf name).trans hlookup) k

-- The last name of a path, looked up in the directory that the others lead to.
theorem follow_ofDisk (count : Nat) (name : String) (k : Location → Except Cause α) :
    (((ofDisk disk).follow count location (names ++ [name])).bind k) =
      (Disk.walk disk.root location names).bind fun folder =>
        (Disk.entriesAt disk.root folder).bind fun _ =>
          if name = "." then k folder
          else if name = ".." then k folder.dropLast
          else if name.utf8ByteSize > Disk.maxName then .error .nameTooLong
          else k (folder ++ [name]) := by
  obtain ⟨f, hf⟩ := exists_follow_eq_walk (ofDisk disk) count
  rw [hf, ← walk_ofDisk (f := f), walk_append_ofDisk]
  cases (ofDisk disk).walk f location names with
  | error cause => rfl
  | ok folder =>
      simp only [Except.bind, walk_cons_ofDisk, enter_ofDisk]
      cases Disk.entriesAt disk.root folder with
      | error cause => rfl
      | ok entries =>
          simp only [Except.map]
          split_ifs <;> rfl

theorem names_eq_concat (hslash : Pathname.endsInSlash path = false) {origin : Location}
    (hs : disk.start path = .ok origin) :
    ∃ front name, Pathname.names path = front ++ [name] := by
  have hempty : path ≠ "" := by
    rintro rfl
    simp [Disk.start] at hs
  have hne : Pathname.names path ≠ [] := by
    intro hnil
    rw [Pathname.endsInSlash_of_names_eq_nil hempty hnil] at hslash
    cases hslash
  exact ⟨_, _, (List.dropLast_concat_getLast hne).symm⟩

-- What is looked for at the end of a way is found by both, or by neither.
theorem follow_eq_walk (k : Location → Except Cause α)
    (hnone : ∀ location, disk.root.find? location = none → k location = .error .notFound) :
    ((ofDisk disk).follow maxLinks location names).bind k =
      (Disk.walk disk.root location names).bind k := by
  rcases List.eq_nil_or_concat names with rfl | ⟨front, name, rfl⟩
  · rfl
  · rw [List.concat_eq_append, follow_ofDisk, Disk.walk_append]
    cases Disk.walk disk.root location front with
    | error cause => rfl
    | ok folder =>
        simp only [Except.bind, Disk.walk_singleton, Disk.step, bind, pure, Except.pure]
        cases he : Disk.entriesAt disk.root folder with
        | error cause => rfl
        | ok entries =>
            split_ifs with hdot hdots hsize
            · rfl
            · rfl
            · simp only [Disk.find, hsize, if_true]
            · simp only [Disk.find, hsize, if_false]
              cases hlookup : entries.lookup name with
              | some tree => rfl
              | none =>
                  have hf := Disk.entriesAt_ok_iff.mp he
                  exact hnone _ ((FileTree.find?_append_singleton hf name).trans hlookup)

-- What a path finds at the location that it leads to.
def finds (disk : Disk) (path : String) (location : Location) : Except Cause FileTree :=
  match disk.root.find? location with
  | some tree =>
      if Pathname.endsInSlash path && !tree.isDirectory then .error .notDirectory else .ok tree
  | none => .error .notFound

theorem locate_ofDisk (disk : Disk) (path : String) :
    ((ofDisk disk).locate path).map Prod.snd = disk.locate path := by
  have hvolume : ((ofDisk disk).locate path).map Prod.snd =
      (disk.start path).bind fun origin =>
        ((ofDisk disk).follow maxLinks origin (Pathname.names path)).bind (finds disk path) := by
    simp only [locate, resolve, ofDisk, bind]
    cases disk.start path with
    | error cause => rfl
    | ok origin =>
        simp only [Except.bind]
        cases follow _ maxLinks origin (Pathname.names path) with
        | error cause => rfl
        | ok location =>
            dsimp only [finds]
            cases disk.root.find? location with
            | none => rfl
            | some tree =>
                dsimp only
                split_ifs <;> rfl
  rw [hvolume, Disk.locate]
  refine congrArg (Except.bind _) (funext fun origin => ?_)
  rw [follow_eq_walk _ fun location hnone => by rw [finds, hnone]]
  refine congrArg (Except.bind _) (funext fun location => ?_)
  unfold finds
  cases disk.root.find? location with
  | none => rfl
  | some tree =>
      dsimp only
      split_ifs <;> rfl

-- What a directory is asked for, nothing is written to.
theorem write_of_endsInSlash (hslash : Pathname.endsInSlash path = true) (content : ByteArray) :
    disk.write path content =
      (disk.start path).bind fun origin =>
        (Disk.walk disk.root origin (Pathname.names path).dropLast).bind fun folder =>
          (Disk.entriesAt disk.root folder).bind fun _ => .error .isDirectory := by
  simp only [Disk.write, Disk.place, bind]
  cases disk.start path with
  | error cause => rfl
  | ok origin =>
      simp only [Except.bind]
      cases Disk.walk disk.root origin (Pathname.names path).dropLast with
      | error cause => rfl
      | ok folder =>
          dsimp only
          cases Disk.entriesAt disk.root folder with
          | error cause => rfl
          | ok entries =>
              simp only [pure, Except.pure, hslash, if_true]
              split <;> rfl

-- Where a file may be put.
def vacant (disk : Disk) (location : Location) : Except Cause Location :=
  match disk.root.find? location with
  | some (.directory _) => .error .isDirectory
  | _ => .ok location

theorem vacant_of_directory (h : disk.entryAt location = some .directory) :
    vacant disk location = .error .isDirectory := by
  obtain ⟨entries, hf⟩ := FileTree.entryAt_eq_directory_iff.mp h
  rw [vacant, hf]

theorem write_of_names {origin : Location} {front : List String} {name : String}
    (hslash : Pathname.endsInSlash path = false) (hs : disk.start path = .ok origin)
    (hnames : Pathname.names path = front ++ [name]) (content : ByteArray) :
    disk.write path content =
      ((Disk.walk disk.root origin front).bind fun folder =>
        (Disk.entriesAt disk.root folder).bind fun _ =>
          if name = "." then vacant disk folder
          else if name = ".." then vacant disk folder.dropLast
          else if name.utf8ByteSize > Disk.maxName then .error .nameTooLong
          else vacant disk (folder ++ [name])).map fun location =>
        disk.put location (.file content) := by
  simp only [Disk.write, Disk.place, bind, hs, hnames, List.dropLast_concat, List.getLast?_concat,
    Except.bind]
  cases Disk.walk disk.root origin front with
  | error cause => rfl
  | ok folder =>
      dsimp only
      cases he : Disk.entriesAt disk.root folder with
      | error cause => rfl
      | ok entries =>
          have hf := Disk.entriesAt_ok_iff.mp he
          have hd : disk.entryAt folder = some .directory :=
            FileTree.entryAt_eq_directory_iff.mpr ⟨entries, hf⟩
          simp only [pure, Except.pure, hslash, Bool.false_eq_true, if_false]
          by_cases hdot : name = "."
          · simp [hdot, Option.filter_some, vacant_of_directory hd, Except.map, throw, throwThe,
              MonadExceptOf.throw]
          by_cases hdots : name = ".."
          · have hup := vacant_of_directory (Disk.entryAt_dropLast_of_directory hd)
            simp [hdots, Option.filter_some, hup, Except.map, throw, throwThe, MonadExceptOf.throw]
          by_cases hsize : name.utf8ByteSize > Disk.maxName
          · simp [hdot, hdots, Option.filter_some, Disk.find, hsize, Except.map]
          · have hinner := FileTree.find?_append_singleton hf name
            simp only [Option.filter_some, hdot, hdots, Disk.find, hsize, vacant, hinner, ne_eq,
              not_false_eq_true, and_self, decide_true, if_true, if_false]
            rcases entries.lookup name with _ | ⟨⟨content⟩ | ⟨inner⟩⟩ <;> rfl

theorem place_ofDisk (disk : Disk) (path : String) (content : ByteArray) :
    ((ofDisk disk).place path).map (fun location => disk.put location (.file content)) =
      disk.write path content := by
  have hdisk : (ofDisk disk).disk = disk := rfl
  cases hslash : Pathname.endsInSlash path with
  | true =>
      rw [write_of_endsInSlash hslash, place, if_pos hslash, hdisk]
      cases disk.start path with
      | error cause => rfl
      | ok origin =>
          obtain ⟨f, hf⟩ := exists_follow_eq_walk (ofDisk disk) maxLinks
          refine Eq.trans ?_ (walk_ofDisk (f := f) _)
          simp only [Except.ok_bind, hf]
          cases (ofDisk disk).walk f origin (Pathname.names path).dropLast with
          | error cause => rfl
          | ok folder =>
              rw [Except.ok_bind, enter_ofDisk]
              simp only [Except.bind]
              cases Disk.entriesAt disk.root folder <;> rfl
  | false =>
      have hlookup : ∀ location : Location, (ofDisk disk).closed.lookup location = none :=
        fun _ => rfl
      have hplace : (ofDisk disk).place path = (disk.start path).bind fun origin =>
          ((ofDisk disk).follow maxLinks origin (Pathname.names path)).bind (vacant disk) := by
        simp only [place, hslash, Bool.false_eq_true, if_false, resolve, hdisk, bind, hlookup]
        cases disk.start path with
        | error cause => rfl
        | ok origin =>
            simp only [Except.bind]
            cases follow _ maxLinks origin (Pathname.names path) with
            | error cause => rfl
            | ok location =>
                simp only [vacant]
                rcases disk.root.find? location with _ | ⟨⟨content⟩ | ⟨entries⟩⟩ <;> rfl
      rw [hplace]
      cases hs : disk.start path with
      | error cause => simp [Disk.write, Disk.place, hs, bind, Except.bind, Except.map]
      | ok origin =>
          obtain ⟨front, name, hnames⟩ := names_eq_concat hslash hs
          rw [write_of_names hslash hs hnames, hnames]
          exact congrArg (Except.map _) (follow_ofDisk maxLinks name (vacant disk))

theorem read_ofDisk (disk : Disk) (path : String) :
    (ofDisk disk).readText path = disk.readText path := by
  rw [Disk.readText, Disk.read, ← locate_ofDisk, readText]
  rcases (ofDisk disk).locate path with cause | ⟨location, content | entries⟩
  · rfl
  · rfl
  · rfl

-- A volume of this kind answers a run as its disk does.
theorem alike_ofDisk : Storage.Alike ofDisk where
  readText := read_ofDisk
  exists? := by
    intro disk path
    have hlocate := locate_ofDisk disk path
    change ((ofDisk disk).locate path).isOk = (disk.locate path).isOk
    rw [← hlocate]
    cases (ofDisk disk).locate path <;> rfl
  write := by
    intro disk path content
    change (ofDisk disk).write path content = _
    rw [Artifact.storage_write, ← place_ofDisk, write]
    cases (ofDisk disk).place path <;> rfl

theorem process_ofDisk (g : Generator) (paths : List String) (disk : Disk) :
    (g.process paths).on (ofDisk disk) = ((g.process paths).on disk).map id ofDisk :=
  alike_ofDisk.process g paths disk

end StepCommand.Volume
