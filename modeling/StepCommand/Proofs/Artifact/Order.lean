import StepCommand.Proofs.Artifact.Alone

namespace StepCommand.Artifact

variable {disk after : Disk} {a : Artifact} {as bs : List Artifact} {outcomes : List Outcome}
  {directory : String}

-- An artifact has a place to be written to, and a directory there is in the way only of one that
-- replaces something.
def Writable (disk : Disk) (a : Artifact) : Prop :=
  ∃ target, disk.target? a.path = some target ∧
    (∀ name ∈ (Pathname.names a.path).getLast?, name.utf8ByteSize ≤ Disk.maxName) ∧
    (disk.entryAt target = some .directory → a.policy = .createOnly)

theorem exists_write_iff (hnames : Pathname.NamesFile a.path) :
    (∃ status after, a.write disk = (.ok status, after)) ↔ a.Writable disk := by
  constructor
  · rintro ⟨status, after, h⟩
    obtain ⟨name, hlast, hdots⟩ := hnames.last
    have hsize : ∀ other ∈ (Pathname.names a.path).getLast?,
        other.utf8ByteSize ≤ Disk.maxName := by
      intro other ho
      cases hlast.symm.trans ho
      exact Disk.size_of_exists? hlast hdots (exists?_of_write h)
    obtain ⟨hpolicy, hexists, _, _⟩ | ⟨target, ht, hd, _⟩ := write_cases h
    · obtain ⟨target, ht, _⟩ := Disk.target?_of_exists? hnames hexists
      exact ⟨target, ht, hsize, fun _ => hpolicy⟩
    · exact ⟨target, ht, hsize, fun hdirectory => absurd hdirectory hd⟩
  · rintro ⟨target, ht, hsize, hdirectory⟩
    cases hkept : a.isKept disk with
    | true => exact ⟨.kept, disk, write_ok_iff.mpr (.inl ⟨hkept, rfl, rfl⟩)⟩
    | false =>
        have hd : disk.entryAt target ≠ some .directory := by
          intro hd
          have hexists := Disk.exists?_of_target? ht hnames.slash hsize (by simp [hd])
          rw [isKept_iff.mpr ⟨hdirectory hd, hexists⟩] at hkept
          cases hkept
        have hw : disk.write a.path a.bytes = .ok (disk.put target (.file a.bytes)) :=
          Disk.write_ok_iff.mpr ⟨target, ht, hnames.slash, hsize, hd, rfl⟩
        exact ⟨.written, _, write_ok_iff.mpr (.inr ⟨hkept, rfl, hw⟩)⟩

theorem Written.writable_iff (h : Written disk as outcomes after) :
    a.Writable after ↔ a.Writable disk := by
  simp only [Writable, h.target?, h.directory_iff]

-- Artifacts do not get into each other's way.
theorem exists_written_iff (hnames : ∀ a ∈ as, Pathname.NamesFile a.path) :
    (∃ outcomes after, Written disk as outcomes after) ↔ ∀ a ∈ as, a.Writable disk := by
  induction as generalizing disk with
  | nil => exact ⟨fun _ a ha => absurd ha List.not_mem_nil, fun _ => ⟨[], disk, .nil disk⟩⟩
  | cons a as ih =>
      obtain ⟨hfirst, hrest⟩ := List.forall_mem_cons.mp hnames
      rw [List.forall_mem_cons]
      constructor
      · rintro ⟨_, after, hw⟩
        cases hw with
        | cons head tail =>
            have hone := Written.cons head (.nil _)
            refine ⟨(exists_write_iff hfirst).mp ⟨_, _, head⟩, fun b hb => ?_⟩
            exact hone.writable_iff.mp ((ih hrest).mp ⟨_, _, tail⟩ b hb)
      · rintro ⟨ha, has⟩
        obtain ⟨status, mid, head⟩ := (exists_write_iff hfirst).mpr ha
        have hone := Written.cons head (.nil _)
        obtain ⟨outcomes, after, tail⟩ :=
          (ih hrest).mpr fun b hb => hone.writable_iff.mpr (has b hb)
        exact ⟨_, after, .cons head tail⟩

theorem filter_target_perm (hwithin : ∀ a ∈ as, a.Within directory)
    (hnodup : (as.map Artifact.path).Nodup) (hperm : bs.Perm as) (location : Location) :
    (bs.filter fun a => disk.target? a.path = some location) =
      as.filter fun a => disk.target? a.path = some location := by
  have hfilter := hperm.filter fun a => decide (disk.target? a.path = some location)
  cases hone : as.filter fun a => disk.target? a.path = some location with
  | nil => exact List.perm_nil.mp (hone ▸ hfilter)
  | cons a rest =>
      cases rest with
      | nil => exact List.perm_singleton.mp (hone ▸ hfilter)
      | cons b rest =>
          have hmem : ∀ c ∈ a :: b :: rest, c ∈ as ∧ disk.target? c.path = some location := by
            intro c hc
            rw [← hone] at hc
            simpa using List.mem_filter.mp hc
          obtain ⟨ha, hta⟩ := hmem a List.mem_cons_self
          obtain ⟨hb, htb⟩ := hmem b (List.mem_cons_of_mem _ List.mem_cons_self)
          have hsame : a.path = b.path := (hwithin a ha).path_eq (hwithin b hb) hta htb
          have hsub : ((as.filter fun a => disk.target? a.path = some location).map
              Artifact.path).Sublist (as.map Artifact.path) := List.filter_sublist.map _
          have hnone := hnodup.sublist hsub
          rw [hone] at hnone
          simp [hsame] at hnone

-- The disk and what is reported are the same in the end.
theorem Written.perm (h : Written disk as outcomes after)
    (hwithin : ∀ a ∈ as, a.Within directory) (hnodup : (as.map Artifact.path).Nodup)
    (hperm : bs.Perm as) :
    ∃ others other, Written disk bs others other ∧ others.Perm outcomes ∧
      ∀ location, other.entryAt location = after.entryAt location := by
  have hnames : ∀ a ∈ as, Pathname.NamesFile a.path := fun a ha => (hwithin a ha).namesFile
  have hwithin' : ∀ b ∈ bs, b.Within directory := fun b hb => hwithin b (hperm.mem_iff.mp hb)
  have hnames' : ∀ b ∈ bs, Pathname.NamesFile b.path := fun b hb => (hwithin' b hb).namesFile
  have hwritable := (exists_written_iff hnames).mp ⟨outcomes, after, h⟩
  obtain ⟨others, other, hw⟩ :=
    (exists_written_iff hnames').mpr fun b hb => hwritable b (hperm.mem_iff.mp hb)
  refine ⟨others, other, hw, ?_, fun location => ?_⟩
  · have hnodup' : (bs.map Artifact.path).Nodup := (hperm.map _).nodup_iff.mpr hnodup
    rw [(alone_of_nodup hw hwithin' hnodup').reported, (alone_of_nodup h hwithin hnodup).reported]
    exact hperm.map _
  · rw [hw.entryAt_eq hnames', h.entryAt_eq hnames,
      filter_target_perm hwithin hnodup hperm location]

end StepCommand.Artifact
