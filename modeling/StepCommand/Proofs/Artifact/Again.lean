import StepCommand.Proofs.Artifact.Settled

namespace StepCommand.Artifact

variable {disk mid after : Disk} {a b : Artifact} {as : List Artifact} {outcomes : List Outcome}
  {status : Status} {target : Location} {content : ByteArray}

-- What is reported of an artifact that is there already.
def again (a : Artifact) : Outcome :=
  ⟨a.path, match a.policy with | .overwrite => .written | .createOnly => .kept⟩

theorem write_of_exists (hp : a.policy = .createOnly) (h : disk.exists? a.path = true) :
    a.write disk = (.ok .kept, disk) :=
  write_ok_iff.mpr (.inl ⟨isKept_iff.mpr ⟨hp, h⟩, rfl, rfl⟩)

-- Where an artifact belongs that is there already, there is a file.
theorem exists_file (hnames : Pathname.NamesFile a.path) (hexists : disk.exists? a.path = true)
    (ht : disk.target? a.path = some target) (hd : disk.entryAt target ≠ some .directory) :
    ∃ content, disk.entryAt target = some (.file content) := by
  obtain ⟨other, ho, hsome⟩ := Disk.target?_of_exists? hnames hexists
  rw [ht] at ho
  cases ho
  obtain ⟨entry, he⟩ := Option.isSome_iff_exists.mp hsome
  cases entry with
  | directory => exact absurd he hd
  | file content => exact ⟨content, he⟩

-- What is written although it is there already, is written over a file.
theorem overwritten (hnames : Pathname.NamesFile a.path) (hexists : disk.exists? a.path = true)
    (h : a.write disk = (.ok status, after)) (hp : a.policy = .overwrite) :
    status = .written ∧ ∃ target content, disk.target? a.path = some target ∧
      disk.entryAt target = some (.file content) ∧
      after = disk.put target (.file a.bytes) := by
  obtain ⟨hc, _⟩ | ⟨target, ht, hd, _, hstatus, hafter, _⟩ := write_cases h
  · rw [hp] at hc
    cases hc
  · obtain ⟨content, hf⟩ := exists_file hnames hexists ht hd
    exact ⟨hstatus, target, content, ht, hf, hafter⟩

-- The name of an artifact that can be written stays good.
theorem write_over (h : a.write disk = (.ok status, after)) (hp : a.policy = .overwrite)
    {other : Disk} (ht : other.target? a.path = some target)
    (hd : other.entryAt target ≠ some .directory) :
    a.write other = (.ok .written, other.put target (.file a.bytes)) := by
  have hkept : ∀ disk : Disk, a.isKept disk = false := by
    intro disk
    simp [isKept, hp]
  obtain ⟨hk, _⟩ | ⟨_, _, hw⟩ := write_ok_iff.mp h
  · rw [hkept] at hk
    cases hk
  · obtain ⟨_, _, hslash, hsize, _, _⟩ := Disk.write_ok_iff.mp hw
    exact write_ok_iff.mpr (.inr ⟨hkept other, rfl,
      Disk.write_ok_iff.mpr ⟨target, ht, hslash, hsize, hd, rfl⟩⟩)

namespace Written

-- What is in a file does not matter if an artifact is to be written over it.
theorem absorb (h : Written disk as outcomes after)
    (hnames : ∀ a ∈ as, Pathname.NamesFile a.path) (hexists : ∀ a ∈ as, disk.exists? a.path = true)
    (hb : b ∈ as) (hp : b.policy = .overwrite) (ht : disk.target? b.path = some target)
    (hf : disk.entryAt target = some (.file content)) (replacement : ByteArray) :
    Written (disk.put target (.file replacement)) as outcomes after := by
  induction h with
  | nil disk => simp at hb
  | @cons disk mid after a as status outcomes head tail ih =>
      have hnot : disk.entryAt target ≠ some .directory := by simp [hf]
      have hr := Disk.rewritten_put ht hnot replacement
      have hhead := hexists a List.mem_cons_self
      have hname := hnames a List.mem_cons_self
      have hrest : ∀ c ∈ as, mid.exists? c.path = true := fun c hc =>
        (Written.cons head (.nil mid)).exists? (hexists c (List.mem_cons_of_mem _ hc))
      have hmid : ∀ path, mid.target? path = disk.target? path :=
        (Written.cons head (.nil mid)).target?
      have ih := ih (fun c hc => hnames c (List.mem_cons_of_mem _ hc)) hrest
      cases hpolicy : a.policy with
      | createOnly =>
          have hne : b ≠ a := by
            rintro rfl
            rw [hp] at hpolicy
            cases hpolicy
          have hkept := write_of_exists hpolicy hhead
          rw [hkept] at head
          cases head
          have hb' := (List.mem_cons.mp hb).resolve_left hne
          exact .cons (write_of_exists hpolicy (hr.exists? hhead)) (ih hb' ht hf)
      | overwrite =>
          obtain ⟨rfl, place, old, hplace, hold, rfl⟩ := overwritten hname hhead head hpolicy
          have hwrite := write_over head hpolicy ((hr.target? a.path).trans hplace) fun hd =>
            absurd (hold.symm.trans ((hr.root.directory_iff place).mp hd)) (by simp)
          by_cases heq : place = target
          · -- the content is written over at once
            subst heq
            refine .cons hwrite ?_
            simp only [Disk.put, FileTree.put_put]
            exact tail
          · have hne : b ≠ a := by
              rintro rfl
              rw [ht] at hplace
              exact heq (Option.some.inj hplace).symm
            have hb' := (List.mem_cons.mp hb).resolve_left hne
            have hf' : (disk.put place (.file a.bytes)).entryAt target = some (.file content) := by
              rw [Disk.entryAt_put hplace (by simp [hold]), if_neg (Ne.symm heq), hf]
            have hcomm : (disk.put target (.file replacement)).put place (.file a.bytes) =
                (disk.put place (.file a.bytes)).put target (.file replacement) := by
              simp only [Disk.put]
              rw [FileTree.put_comm _ _ (Ne.symm heq) (FileTree.entryAt_eq_file_iff.mp hf)
                (FileTree.entryAt_eq_file_iff.mp hold)]
            refine .cons hwrite ?_
            rw [hcomm]
            exact ih hb' ((hmid b.path).trans ht) hf'

-- A content that has been written once may be written once more before all that comes after it,
-- since it is either there already or written over.
theorem absorb_again (h : Written (disk.put target (.file content)) as outcomes after)
    (hnames : ∀ a ∈ as, Pathname.NamesFile a.path)
    (hput : (disk.put target (.file content)).entryAt target = some (.file content))
    (hagain : Written after as (as.map Artifact.again) after) :
    Written (after.put target (.file content)) as (as.map Artifact.again) after := by
  have hexists : ∀ b ∈ as, after.exists? b.path = true := fun b hb => h.exists?_of_mem hb
  by_cases hover : ∃ b ∈ as, b.policy = .overwrite ∧ after.target? b.path = some target
  · obtain ⟨b, hb, hp, ht⟩ := hover
    have hd : after.entryAt target ≠ some .directory := by
      intro hd
      rw [(h.directory_iff target).mp hd] at hput
      simp at hput
    obtain ⟨old, hf⟩ := exists_file (hnames b hb) (hexists b hb) ht hd
    exact hagain.absorb hnames hexists hb hp ht hf content
  · have hlast := h.entryAt_of_forall_createOnly hnames hput fun b hb ht => by
      cases hp : b.policy with
      | createOnly => rfl
      | overwrite => exact absurd ⟨b, hb, hp, (h.target? b.path).trans ht⟩ hover
    have hsame : after.put target (.file content) = after := by
      simp only [Disk.put]
      rw [FileTree.put_of_find? (FileTree.entryAt_eq_file_iff.mp hlast)]
    rw [hsame]
    exact hagain

-- The last content of each file is there already, and the earlier ones are written over.
theorem again (h : Written disk as outcomes after)
    (hnames : ∀ a ∈ as, Pathname.NamesFile a.path) :
    Written after as (as.map Artifact.again) after := by
  induction h with
  | nil disk => exact .nil disk
  | @cons disk mid after a as status outcomes head tail ih =>
      have htail : ∀ c ∈ as, Pathname.NamesFile c.path := fun c hc =>
        hnames c (List.mem_cons_of_mem _ hc)
      have hall := Written.cons head tail
      have ih := ih htail
      cases hp : a.policy with
      | createOnly =>
          have hout : a.again = ⟨a.path, .kept⟩ := by simp [Artifact.again, hp]
          rw [List.map_cons, hout]
          exact .cons (write_of_exists hp (hall.exists?_of_mem List.mem_cons_self)) ih
      | overwrite =>
          have hout : a.again = ⟨a.path, .written⟩ := by simp [Artifact.again, hp]
          obtain ⟨hc, _⟩ | ⟨target, ht, hd, _, _, rfl, _⟩ := write_cases head
          · rw [hp] at hc
            cases hc
          · have ht' : after.target? a.path = some target := (hall.target? a.path).trans ht
            have hd' : after.entryAt target ≠ some .directory :=
              fun h => hd ((hall.directory_iff target).mp h)
            have hput : (disk.put target (.file a.bytes)).entryAt target =
                some (.file a.bytes) := by rw [Disk.entryAt_put ht hd, if_pos rfl]
            rw [List.map_cons, hout]
            exact .cons (write_over head hp ht' hd') (tail.absorb_again htail hput ih)

end Written

end StepCommand.Artifact
