import StepCommand.Artifact
import StepCommand.Proofs.Disk.File

namespace StepCommand

open FileTree (Entry)

namespace Artifact

variable {a b : Artifact} {as bs : List Artifact} {outcomes : List Outcome} {status : Status}
  {path : String} {location target : Location} {failure : Failure}

def bytes (a : Artifact) : ByteArray := a.content.toUTF8

section Storage

variable {σ : Type} [Storage σ] {s mid after : σ}

-- Each artifact meets the files as the ones before it have left them.
inductive Written : σ → List Artifact → List Outcome → σ → Prop where
  | nil (s : σ) : Written s [] [] s
  | cons {s mid after : σ} {a : Artifact} {as : List Artifact} {status : Status}
      {outcomes : List Outcome} (head : a.write s = (.ok status, mid))
      (tail : Written mid as outcomes after) :
      Written s (a :: as) (⟨a.path, status⟩ :: outcomes) after

-- The first artifact that cannot be written is the last that is tried.
inductive Stuck : σ → List Artifact → Failure → σ → Prop where
  | here {s after : σ} {a : Artifact} {as : List Artifact} {failure : Failure}
      (head : a.write s = (.error failure, after)) : Stuck s (a :: as) failure after
  | later {s mid after : σ} {a : Artifact} {as : List Artifact} {status : Status}
      {failure : Failure} (head : a.write s = (.ok status, mid))
      (tail : Stuck mid as failure after) : Stuck s (a :: as) failure after

theorem isKept_eq_true_iff :
    a.isKept s = true ↔ a.policy = .createOnly ∧ Storage.exists? s a.path = true := by
  simp [isKept]

theorem write_eq_ok_iff :
    a.write s = (.ok status, after) ↔
      (a.isKept s = true ∧ status = .kept ∧ after = s) ∨
        (a.isKept s = false ∧ status = .written ∧
          Storage.write s a.path a.bytes = (.ok (), after)) := by
  unfold write bytes
  cases a.isKept s with
  | true => simp [eq_comm]
  | false =>
      rcases Storage.write s a.path a.content.toUTF8 with ⟨cause | _, left⟩
      · simp
      · simp [eq_comm]

theorem write_eq_error_iff :
    a.write s = (.error failure, after) ↔
      a.isKept s = false ∧ ∃ cause, Storage.write s a.path a.bytes = (.error cause, after) ∧
        failure = .fileSystem a.path cause := by
  unfold write bytes
  cases a.isKept s with
  | true => simp
  | false =>
      rcases Storage.write s a.path a.content.toUTF8 with ⟨cause | _, left⟩
      · constructor
        · intro h
          cases h
          exact ⟨rfl, cause, rfl, rfl⟩
        · rintro ⟨_, other, hwrite, rfl⟩
          cases hwrite
          rfl
      · simp

namespace Written

theorem append (ha : Written s as outcomes mid) {more : List Outcome}
    (hb : Written mid bs more after) : Written s (as ++ bs) (outcomes ++ more) after := by
  induction ha with
  | nil s => exact hb
  | cons head tail ih => exact .cons head (ih hb)

theorem of_append (h : Written s (as ++ bs) outcomes after) :
    ∃ first second mid, outcomes = first ++ second ∧ Written s as first mid ∧
      Written mid bs second after := by
  induction as generalizing s outcomes with
  | nil => exact ⟨[], outcomes, s, rfl, .nil s, h⟩
  | cons a as ih =>
      cases h with
      | cons head tail =>
          obtain ⟨first, second, mid, rfl, hfirst, hsecond⟩ := ih tail
          exact ⟨_ :: first, second, mid, rfl, .cons head hfirst, hsecond⟩

theorem paths (h : Written s as outcomes after) :
    outcomes.map Outcome.path = as.map Artifact.path := by
  induction h with
  | nil s => rfl
  | cons head tail ih => simp [ih]

-- What holds of each single write, holds of all of them.
theorem relates {P : σ → σ → Prop} (hrefl : ∀ s, P s s)
    (htrans : ∀ {first second third}, P first second → P second third → P first third)
    (hstep : ∀ {a first second status}, a ∈ as → a.write first = (.ok status, second) →
      P first second)
    (h : Written s as outcomes after) : P s after := by
  induction h with
  | nil s => exact hrefl s
  | cons head tail ih =>
      have htail := ih fun ha => hstep (List.mem_cons_of_mem _ ha)
      exact htrans (hstep List.mem_cons_self head) htail

end Written

theorem stuck_iff :
    Stuck s as failure after ↔
      ∃ done a rest outcomes mid, as = done ++ a :: rest ∧ Written s done outcomes mid ∧
        a.write mid = (.error failure, after) := by
  constructor
  · intro h
    induction h with
    | @here s after a as failure head => exact ⟨[], a, as, [], s, rfl, .nil s, head⟩
    | @later s mid after a as status failure head tail ih =>
        obtain ⟨done, b, rest, outcomes, last, rfl, hw, hb⟩ := ih
        exact ⟨a :: done, b, rest, _, last, rfl, .cons head hw, hb⟩
  · rintro ⟨done, a, rest, outcomes, mid, rfl, hw, ha⟩
    induction hw with
    | nil s => exact .here ha
    | cons head tail ih => exact .later head (ih ha)

end Storage

section Disk

variable {disk before after mid : Disk}

theorem storage_write (disk : Disk) (path : String) (content : ByteArray) :
    Storage.write disk path content =
      match disk.write path content with
      | .ok written => (.ok (), written)
      | .error cause => (.error cause, disk) := rfl

theorem storage_write_ok_iff {content : ByteArray} :
    Storage.write disk path content = (.ok (), after) ↔ disk.write path content = .ok after := by
  rw [storage_write]
  cases disk.write path content with
  | error cause => simp
  | ok written => simp

theorem storage_write_error_iff {content : ByteArray} {cause : Disk.Cause} :
    Storage.write disk path content = (.error cause, after) ↔
      disk.write path content = .error cause ∧ after = disk := by
  rw [storage_write]
  cases disk.write path content with
  | error other => simp [eq_comm]
  | ok written => simp

theorem isKept_iff :
    a.isKept disk = true ↔ a.policy = .createOnly ∧ disk.exists? a.path = true :=
  isKept_eq_true_iff

theorem write_ok_iff :
    a.write disk = (.ok status, after) ↔
      (a.isKept disk = true ∧ status = .kept ∧ after = disk) ∨
        (a.isKept disk = false ∧ status = .written ∧ disk.write a.path a.bytes = .ok after) := by
  rw [write_eq_ok_iff, storage_write_ok_iff]

-- A file that is not written leaves the disk as it is.
theorem write_error_iff :
    a.write disk = (.error failure, after) ↔
      a.isKept disk = false ∧ after = disk ∧
        ∃ cause, disk.write a.path a.bytes = .error cause ∧ failure = .fileSystem a.path cause := by
  simp only [write_eq_error_iff, storage_write_error_iff]
  constructor
  · rintro ⟨hkept, cause, ⟨hwrite, rfl⟩, rfl⟩
    exact ⟨hkept, rfl, cause, hwrite, rfl⟩
  · rintro ⟨hkept, rfl, cause, hwrite, rfl⟩
    exact ⟨hkept, cause, ⟨hwrite, rfl⟩, rfl⟩

-- What one artifact does to the disk.
theorem write_cases (h : a.write disk = (.ok status, after)) :
    (a.policy = .createOnly ∧ disk.exists? a.path = true ∧ status = .kept ∧ after = disk) ∨
      ∃ target, disk.target? a.path = some target ∧ disk.entryAt target ≠ some .directory ∧
        (a.policy = .createOnly → disk.entryAt target = none) ∧ status = .written ∧
        after = disk.put target (.file a.bytes) ∧ after.exists? a.path = true := by
  obtain ⟨hkept, rfl, rfl⟩ | ⟨hkept, rfl, hw⟩ := write_ok_iff.mp h
  · obtain ⟨hpolicy, hexists⟩ := isKept_iff.mp hkept
    exact .inl ⟨hpolicy, hexists, rfl, rfl⟩
  · obtain ⟨target, ht, hslash, hsize, hd, rfl⟩ := Disk.write_ok_iff.mp hw
    have hr := Disk.rewritten_put ht hd a.bytes
    refine .inr ⟨target, ht, hd, ?_, rfl, rfl, ?_⟩
    · intro hpolicy
      cases he : disk.entryAt target with
      | none => rfl
      | some entry =>
          have hexists := Disk.exists?_of_target? ht hslash hsize (by simp [he])
          rw [isKept_iff.mpr ⟨hpolicy, hexists⟩] at hkept
          cases hkept
    · refine Disk.exists?_of_target? (hr.target?_eq_some ht) hslash hsize ?_
      simp [Disk.entryAt_put ht hd]

theorem put_of_write (h : a.write disk = (.ok status, after)) :
    after = disk ∨ ∃ target, disk.target? a.path = some target ∧
      disk.entryAt target ≠ some .directory ∧ after = disk.put target (.file a.bytes) := by
  obtain ⟨_, _, _, rfl⟩ | ⟨target, ht, hd, _, _, rfl, _⟩ := write_cases h
  · exact .inl rfl
  · exact .inr ⟨target, ht, hd, rfl⟩

theorem exists?_of_write (h : a.write disk = (.ok status, after)) :
    after.exists? a.path = true := by
  obtain ⟨_, hexists, _, rfl⟩ | ⟨_, _, _, _, _, _, hexists⟩ := write_cases h
  · exact hexists
  · exact hexists

theorem readText_of_write (hpolicy : a.policy = .overwrite)
    (h : a.write disk = (.ok status, after)) : after.readText a.path = .ok a.content := by
  obtain ⟨hkept, -, -⟩ | ⟨-, -, hwrite⟩ := write_ok_iff.mp h
  · rw [(isKept_iff.mp hkept).1] at hpolicy
    cases hpolicy
  · exact Disk.readText_of_write hwrite

namespace Written

-- What holds of each single write that changes the disk, holds of all of them.
theorem preserves {P : Disk → Disk → Prop} (hrefl : ∀ disk, P disk disk)
    (htrans : ∀ {first second third}, P first second → P second third → P first third)
    (hstep : ∀ {a first target}, a ∈ as → first.target? a.path = some target →
      first.entryAt target ≠ some .directory → P first (first.put target (.file a.bytes)))
    (h : Written disk as outcomes after) : P disk after := by
  refine h.relates hrefl htrans fun {a first second status} ha hw => ?_
  obtain rfl | ⟨target, ht, hd, rfl⟩ := put_of_write hw
  · exact hrefl _
  · exact hstep ha ht hd

theorem here (h : Written disk as outcomes after) : after.here = disk.here :=
  h.preserves (P := fun first second => second.here = first.here)
    (fun _ => rfl) (fun h₁ h₂ => h₂.trans h₁) fun _ _ _ => rfl

theorem target? (h : Written disk as outcomes after) (path : String) :
    after.target? path = disk.target? path :=
  h.preserves (P := fun first second => second.target? path = first.target? path)
    (fun _ => rfl) (fun h₁ h₂ => h₂.trans h₁)
    fun _ ht hd => (Disk.rewritten_put ht hd _).target? path

theorem directory_iff (h : Written disk as outcomes after) (location : Location) :
    after.entryAt location = some .directory ↔ disk.entryAt location = some .directory :=
  h.preserves (P := fun first second =>
      second.entryAt location = some .directory ↔ first.entryAt location = some .directory)
    (fun _ => Iff.rfl) (fun h₁ h₂ => h₂.trans h₁) fun _ ht hd =>
      (Disk.rewritten_put ht hd _).root.directory_iff location

-- Nothing is removed.
theorem isSome (h : Written disk as outcomes after) (hsome : (disk.entryAt location).isSome) :
    (after.entryAt location).isSome :=
  h.preserves (P := fun first second =>
      (first.entryAt location).isSome → (second.entryAt location).isSome)
    (fun _ h => h) (fun h₁ h₂ h => h₂ (h₁ h)) (fun _ ht hd =>
      (Disk.rewritten_put ht hd _).root.isSome) hsome

theorem isDirectory? (h : Written disk as outcomes after) (hd : disk.isDirectory? path = true) :
    after.isDirectory? path = true :=
  h.preserves (P := fun first second => first.isDirectory? path = true →
      second.isDirectory? path = true)
    (fun _ h => h) (fun h₁ h₂ h => h₂ (h₁ h)) (fun _ ht hn =>
      (Disk.rewritten_put ht hn _).isDirectory?) hd

theorem exists? (h : Written disk as outcomes after) (he : disk.exists? path = true) :
    after.exists? path = true :=
  h.preserves (P := fun first second => first.exists? path = true → second.exists? path = true)
    (fun _ h => h) (fun h₁ h₂ h => h₂ (h₁ h)) (fun _ ht hd =>
      (Disk.rewritten_put ht hd _).exists?) he

theorem readText_iff {text : String} (h : Written disk as outcomes after)
    (hne : ∀ a ∈ as, (Pathname.names path).getLast? ≠ (Pathname.names a.path).getLast?) :
    after.readText path = .ok text ↔ disk.readText path = .ok text := by
  refine h.preserves (P := fun first second =>
      second.readText path = .ok text ↔ first.readText path = .ok text)
    (fun _ => Iff.rfl) (fun h₁ h₂ => h₂.trans h₁) ?_
  intro a first target ha ht hd
  refine (Disk.rewritten_put ht hd a.bytes).readText_iff ?_ ?_
  · obtain ⟨_, folder, name, _, _, _, _, _, rfl⟩ := Disk.target?_eq_some_iff.mp ht
    simp
  · rw [Disk.getLast?_of_target? ht]
    exact hne a ha

theorem exists?_of_mem (h : Written disk as outcomes after) (ha : a ∈ as) :
    after.exists? a.path = true := by
  induction h with
  | nil disk => simp at ha
  | cons head tail ih =>
      rcases List.mem_cons.mp ha with rfl | ha
      · exact tail.exists? (exists?_of_write head)
      · exact ih ha

end Written

-- The artifact that cannot be written leaves the disk as the ones before it have.
theorem stuck_on_iff :
    Stuck disk as failure after ↔
      ∃ done a rest outcomes, as = done ++ a :: rest ∧ Written disk done outcomes after ∧
        a.write after = (.error failure, after) := by
  rw [stuck_iff]
  constructor
  · rintro ⟨done, a, rest, outcomes, mid, heq, hw, ha⟩
    obtain ⟨_, rfl, _⟩ := write_error_iff.mp ha
    exact ⟨done, a, rest, outcomes, heq, hw, ha⟩
  · rintro ⟨done, a, rest, outcomes, heq, hw, ha⟩
    exact ⟨done, a, rest, outcomes, after, heq, hw, ha⟩

end Disk

end Artifact

end StepCommand
