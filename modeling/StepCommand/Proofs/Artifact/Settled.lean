import StepCommand.Proofs.Artifact

namespace StepCommand.Artifact

open FileTree (Entry)

variable {disk after : Disk} {a : Artifact} {as earlier later : List Artifact}
  {outcomes : List Outcome} {path : String} {location target : Location}

-- What is in the end where all of the artifacts belong: the last that may replace something, else
-- what was there before, else the first of those that replace nothing.
def settled (before : Option Entry) (as : List Artifact) : Option Entry :=
  match (as.filter fun a => a.policy = .overwrite).getLast? with
  | some a => some (.file a.bytes)
  | none => before.or ((as.find? fun a => a.policy = .createOnly).map fun a => .file a.bytes)

-- What one artifact makes of what is there before.
def leaves (a : Artifact) (before : Option Entry) : Option Entry :=
  if a.policy = .overwrite then some (.file a.bytes) else before.or (some (.file a.bytes))

@[simp] theorem settled_nil (before : Option Entry) : settled before [] = before := by
  simp [settled]

theorem settled_cons (before : Option Entry) (a : Artifact) (as : List Artifact) :
    settled before (a :: as) = settled (a.leaves before) as := by
  unfold settled leaves
  cases hp : a.policy with
  | overwrite =>
      cases hl : (as.filter fun a => a.policy = .overwrite).getLast? with
      | none => simp [hp, List.getLast?_cons, hl]
      | some last => simp [hp, List.getLast?_cons, hl]
  | createOnly =>
      cases hl : (as.filter fun a => a.policy = .overwrite).getLast? with
      | none => cases before <;> simp [hp, hl]
      | some last => simp [hp, hl]

-- What no artifact may replace stays as it is.
theorem settled_of_forall_createOnly {entry : Entry} (h : ∀ a ∈ as, a.policy = .createOnly) :
    settled (some entry) as = some entry := by
  have hnone : (as.filter fun a => a.policy = .overwrite) = [] := by
    rw [List.filter_eq_nil_iff]
    intro a ha
    simp [h a ha]
  rw [settled, hnone, List.getLast?_nil, Option.some_or]

-- Where nothing was, a file is that of an artifact, with all that is in it.
theorem exists_of_settled_none {content : ByteArray}
    (h : settled none as = some (.file content)) : ∃ a ∈ as, content = a.bytes := by
  unfold settled at h
  split at h
  next a ha =>
    have hmem := List.mem_of_getLast? ha
    exact ⟨a, (List.mem_filter.mp hmem).1, by simpa using h.symm⟩
  next =>
    rw [Option.none_or, Option.map_eq_some_iff] at h
    obtain ⟨a, ha, hentry⟩ := h
    exact ⟨a, List.mem_of_find?_eq_some ha, by simpa using hentry.symm⟩

-- What changes something replaces it, or finds nothing there.
theorem exists_of_settled_ne {before : Option Entry} (h : settled before as ≠ before) :
    ∃ a ∈ as, a.policy = .overwrite ∨ before = none := by
  by_cases hoverwrite : ∃ a ∈ as, a.policy = .overwrite
  · obtain ⟨a, ha, hpolicy⟩ := hoverwrite
    exact ⟨a, ha, .inl hpolicy⟩
  · have hcreate : ∀ a ∈ as, a.policy = .createOnly := by
      intro a ha
      cases hpolicy : a.policy with
      | overwrite => exact absurd ⟨a, ha, hpolicy⟩ hoverwrite
      | createOnly => rfl
    cases before with
    | some entry => exact absurd (settled_of_forall_createOnly hcreate) h
    | none =>
        cases as with
        | nil => exact absurd (settled_nil _) h
        | cons a rest => exact ⟨a, List.mem_cons_self, .inr rfl⟩

-- Each artifact decides about its own place, as it finds it.
theorem Written.settled_of_step {σ : Type} [Storage σ] {s after : σ} {P : σ → Prop}
    {f : σ → Option Entry} {q : Artifact → Bool}
    (hstep : ∀ {a status} {first second : σ}, a ∈ as → P first →
      a.write first = (.ok status, second) →
        P second ∧ f second = if q a then a.leaves (f first) else f first)
    (hs : P s) (h : Written s as outcomes after) :
    f after = settled (f s) (as.filter q) := by
  induction h with
  | nil s => simp
  | cons head tail ih =>
      obtain ⟨hmid, hentry⟩ := hstep List.mem_cons_self hs head
      rw [ih (fun hb => hstep (List.mem_cons_of_mem _ hb)) hmid, hentry, List.filter_cons]
      split
      · rw [settled_cons]
      · rfl

theorem entryAt_write {status : Status} {mid : Disk} (h : a.write disk = (.ok status, mid))
    (hnames : Pathname.NamesFile a.path) (location : Location) :
    mid.entryAt location =
      if disk.target? a.path = some location then a.leaves (disk.entryAt location)
      else disk.entryAt location := by
  obtain ⟨hpolicy, hexists, _, rfl⟩ | ⟨target, ht, hd, hnone, _, rfl, _⟩ := write_cases h
  · obtain ⟨target, ht, hsome⟩ := Disk.target?_of_exists? hnames hexists
    obtain ⟨entry, he⟩ := Option.isSome_iff_exists.mp hsome
    split
    next hl =>
      cases ht.symm.trans hl
      simp [leaves, hpolicy, he]
    next => rfl
  · rw [Disk.entryAt_put ht hd]
    simp only [ht, Option.some.injEq, eq_comm]
    split
    next heq =>
      subst heq
      unfold leaves
      cases hp : a.policy with
      | overwrite => simp
      | createOnly => simp [hnone hp]
    next => rfl

theorem Written.entryAt_eq (h : Written disk as outcomes after)
    (hnames : ∀ a ∈ as, Pathname.NamesFile a.path) (location : Location) :
    after.entryAt location = settled (disk.entryAt location)
      (as.filter fun a => disk.target? a.path = some location) := by
  refine h.settled_of_step (P := fun mid => ∀ path, mid.target? path = disk.target? path)
    (f := fun mid => mid.entryAt location) ?_ fun _ => rfl
  intro a status first second ha hfirst hw
  refine ⟨fun path => ((Written.cons hw (.nil second)).target? path).trans (hfirst path), ?_⟩
  simp only [entryAt_write hw (hnames a ha), hfirst, decide_eq_true_eq]

theorem Written.entryAt_of_forall_createOnly {entry : Entry} (h : Written disk as outcomes after)
    (hnames : ∀ a ∈ as, Pathname.NamesFile a.path) (he : disk.entryAt location = some entry)
    (hkeep : ∀ a ∈ as, disk.target? a.path = some location → a.policy = .createOnly) :
    after.entryAt location = some entry := by
  rw [h.entryAt_eq hnames, he]
  refine settled_of_forall_createOnly fun a ha => ?_
  obtain ⟨hmem, ht⟩ := List.mem_filter.mp ha
  exact hkeep a hmem (by simpa using ht)

theorem Written.exists_target_of_ne (h : Written disk as outcomes after)
    (hnames : ∀ a ∈ as, Pathname.NamesFile a.path)
    (hne : after.entryAt location ≠ disk.entryAt location) :
    ∃ a ∈ as, disk.target? a.path = some location := by
  rw [h.entryAt_eq hnames] at hne
  obtain ⟨a, ha, _⟩ := exists_of_settled_ne hne
  obtain ⟨hmem, ht⟩ := List.mem_filter.mp ha
  exact ⟨a, hmem, by simpa using ht⟩

def Within (directory : String) (a : Artifact) : Prop :=
  ∃ name, Pathname.IsName name ∧ (name ≠ "." ∧ name ≠ "..") ∧ a.path = Pathname.join directory name

variable {directory : String} {b : Artifact}

theorem Within.namesFile (h : Within directory a) : Pathname.NamesFile a.path := by
  obtain ⟨name, hname, hdots, hp⟩ := h
  exact hp ▸ Pathname.namesFile_join directory hname hdots

theorem Within.path_eq (ha : Within directory a) (hb : Within directory b)
    (hta : disk.target? a.path = some target) (htb : disk.target? b.path = some target) :
    a.path = b.path := by
  obtain ⟨name, hname, _, hpa⟩ := ha
  obtain ⟨other, hother, _, hpb⟩ := hb
  have hlast := (Disk.getLast?_of_target? hta).symm.trans (Disk.getLast?_of_target? htb)
  simp only [hpa, hpb, Pathname.names_join _ hname, Pathname.names_join _ hother,
    List.getLast?_append, List.getLast?_singleton, Option.some_or, Option.some.injEq] at hlast
  rw [hpa, hpb, hlast]

theorem Written.exists?_iff (h : Written disk as outcomes after)
    (hall : ∀ b ∈ as, Within directory b) (ha : Within directory a) :
    after.exists? a.path = true ↔ disk.exists? a.path = true ∨ ∃ b ∈ as, b.path = a.path := by
  constructor
  · intro he
    obtain ⟨target, ht, hsome⟩ := Disk.target?_of_exists? ha.namesFile he
    rw [h.target?] at ht
    cases hold : disk.entryAt target with
    | some entry =>
        obtain ⟨name, hlast, hdots⟩ := ha.namesFile.last
        refine .inl (Disk.exists?_of_target? ht ha.namesFile.slash ?_ (by simp [hold]))
        intro other ho
        cases hlast.symm.trans ho
        exact Disk.size_of_exists? hlast hdots he
    | none =>
        have hne : after.entryAt target ≠ disk.entryAt target := by
          intro hsame
          rw [hsame, hold] at hsome
          cases hsome
        obtain ⟨b, hmem, htb⟩ := h.exists_target_of_ne (fun b hb => (hall b hb).namesFile) hne
        exact .inr ⟨b, hmem, (hall b hmem).path_eq ha htb ht⟩
  · rintro (he | ⟨b, hb, hp⟩)
    · exact h.exists? he
    · exact hp ▸ h.exists?_of_mem hb

-- What is reported of an artifact that comes after others.
def reported (disk : Disk) (earlier : List Artifact) (a : Artifact) : Outcome where
  path := a.path
  status :=
    if a.policy = .createOnly ∧ (disk.exists? a.path = true ∨ ∃ b ∈ earlier, b.path = a.path) then
      .kept
    else .written

theorem Written.reported (h : Written disk (earlier ++ a :: later) outcomes after)
    (hall : ∀ b ∈ earlier ++ a :: later, Within directory b) :
    outcomes[earlier.length]? = some (a.reported disk earlier) := by
  obtain ⟨first, second, mid, rfl, hfirst, hsecond⟩ := h.of_append
  have hlength : first.length = earlier.length := by
    simpa using congrArg List.length hfirst.paths
  have hexists : mid.exists? a.path = true ↔ _ :=
    hfirst.exists?_iff (fun b hb => hall b (List.mem_append_left _ hb))
      (hall a (List.mem_append_right _ List.mem_cons_self))
  cases hsecond with
  | @cons _ _ _ _ _ status _ head tail =>
      have hstatus : status = (a.reported disk earlier).status := by
        simp only [Artifact.reported, ← hexists]
        obtain ⟨hkept, rfl, _⟩ | ⟨hkept, rfl, _⟩ := write_ok_iff.mp head
        · rw [if_pos (isKept_iff.mp hkept)]
        · rw [if_neg fun h => by simp [isKept_iff.mpr h] at hkept]
      rw [List.getElem?_append_right (by omega), hlength, Nat.sub_self, hstatus]
      rfl

-- What is at the path of an artifact in the end depends on the artifacts of this path alone.
theorem Written.entryOf_eq (h : Written disk as outcomes after)
    (hall : ∀ b ∈ as, Within directory b) (ha : a ∈ as) :
    after.entryOf a.path =
      settled (disk.entryOf a.path) (as.filter fun b => b.path = a.path) := by
  have hnames := (hall a ha).namesFile
  have hexists := h.exists?_of_mem ha
  obtain ⟨name, hlast, hdots⟩ := hnames.last
  have hsize : ∀ other ∈ (Pathname.names a.path).getLast?, other.utf8ByteSize ≤ Disk.maxName := by
    intro other ho
    cases hlast.symm.trans ho
    exact Disk.size_of_exists? hlast hdots hexists
  obtain ⟨target, hta, _⟩ := Disk.target?_of_exists? hnames hexists
  have ht := h.target? a.path ▸ hta
  have hfilter : (as.filter fun b => disk.target? b.path = some target) =
      as.filter fun b => b.path = a.path := by
    refine List.filter_congr fun b hb => ?_
    simp only [decide_eq_decide]
    constructor
    · intro htb
      exact (hall b hb).path_eq (hall a ha) htb ht
    · intro hp
      rw [hp, ht]
  rw [Disk.entryOf_eq hta hnames.slash hsize, Disk.entryOf_eq ht hnames.slash hsize,
    h.entryAt_eq fun b hb => (hall b hb).namesFile, hfilter]

end StepCommand.Artifact
