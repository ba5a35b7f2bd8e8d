import StepCommand.Proofs.Artifact

namespace StepCommand

open FileTree (Entry)

namespace FileTree

theorem lookup_filter_ne (name other : String) (entries : List (String × FileTree)) :
    (entries.filter fun entry => entry.1 ≠ name).lookup other =
      if other = name then none else entries.lookup other := by
  induction entries with
  | nil => simp
  | cons entry rest ih =>
      rcases entry with ⟨first, inner⟩
      by_cases hf : first = name
      · subst hf
        rw [List.filter_cons_of_neg (by simp), ih]
        by_cases ho : other = first <;> simp [lookup_cons_eq_ite, ho]
      · rw [List.filter_cons_of_pos (by simpa using hf), lookup_cons_eq_ite, lookup_cons_eq_ite, ih]
        by_cases ho : other = first
        · simp [ho, hf]
        · simp [ho]

-- What is removed is gone with all that is in it, and nothing else is.
theorem entryAt_remove (tree : FileTree) {location : Location} (hne : location ≠ [])
    (goal : Location) :
    (tree.remove location).entryAt goal =
      if location <+: goal then none else tree.entryAt goal := by
  cases location with
  | nil => exact absurd rfl hne
  | cons name rest =>
      cases goal with
      | nil =>
          rw [if_neg (by simp)]
          cases tree with
          | file content => simp [remove]
          | directory entries =>
              cases rest with
              | nil => simp [remove, entryAt, entry]
              | cons next rest =>
                  simp only [remove]
                  split <;> simp [entryAt, entry]
      | cons first goal =>
          cases tree with
          | file content => simp [remove, entryAt, find?]
          | directory entries =>
              cases rest with
              | nil =>
                  simp only [remove, entryAt, find?, lookup_filter_ne, List.cons_prefix_cons,
                    List.nil_prefix, and_true]
                  by_cases hf : first = name
                  · simp [hf]
                  · simp [hf, Ne.symm hf]
              | cons next rest =>
                  simp only [remove, List.cons_prefix_cons]
                  cases hlookup : entries.lookup name with
                  | none =>
                      by_cases hf : first = name
                      · simp [hf, entryAt, find?, hlookup]
                      · simp [Ne.symm hf]
                  | some inner =>
                      by_cases hf : first = name
                      · have hinner := entryAt_remove inner (List.cons_ne_nil next rest) goal
                        simpa [hf, entryAt, find?, lookup_setEntry, hlookup] using hinner
                      · simp [hf, Ne.symm hf, entryAt, find?, lookup_setEntry]

end FileTree

namespace Disk

variable {disk after : Disk} {path : String} {target : Location}

theorem remove_eq_some_iff :
    disk.remove path = some after ↔
      ∃ target, disk.target? path = some target ∧ (disk.entryAt target).isSome ∧
        after = { disk with root := disk.root.remove target } := by
  simp only [remove, target?]
  cases hp : disk.place path with
  | error cause => simp
  | ok found =>
      obtain ⟨folder, entries, last⟩ := found
      obtain ⟨_, _, _, hf, _⟩ := place_ok_iff.mp hp
      cases last with
      | none => simp
      | some name =>
          have he := FileTree.entryAt_append_singleton hf name
          have hlast : ∀ other : Disk, some other = some after ↔ after = other :=
            fun _ => Option.some_inj.trans eq_comm
          cases hlookup : entries.lookup name with
          | none => simp [entryAt, he, hlookup]
          | some inner => simp [entryAt, he, hlookup, hlast]

theorem entryAt_of_remove (h : disk.remove path = some after) :
    ∃ target, disk.target? path = some target ∧ ∀ location,
      after.entryAt location = if target <+: location then none else disk.entryAt location := by
  obtain ⟨target, ht, _, rfl⟩ := remove_eq_some_iff.mp h
  refine ⟨target, ht, fun location => FileTree.entryAt_remove _ ?_ location⟩
  obtain ⟨_, folder, name, _, _, _, _, _, rfl⟩ := target?_eq_some_iff.mp ht
  simp

-- Where a file was removed, writing one leads back to the disk there was but for the content.
theorem rewritten_of_remove (h : disk.remove path = some after)
    (ht : disk.target? path = some target) (hd : disk.entryAt target ≠ some .directory) :
    Rewritten target after disk := by
  obtain ⟨other, ho, hsome, rfl⟩ := remove_eq_some_iff.mp h
  obtain rfl : target = other := Option.some.inj (ht.symm.trans ho)
  have hne : target ≠ [] := by
    obtain ⟨_, folder, name, _, _, _, _, _, rfl⟩ := target?_eq_some_iff.mp ht
    simp
  have hremoved := FileTree.entryAt_remove disk.root hne
  obtain ⟨entry, hentry⟩ := Option.isSome_iff_exists.mp hsome
  obtain ⟨content, rfl⟩ : ∃ content, entry = .file content := by
    cases entry with
    | directory => exact absurd hentry hd
    | file content => exact ⟨content, rfl⟩
  refine ⟨⟨fun location hlocation => ?_, ?_, content, hentry⟩, rfl⟩
  · rw [hremoved]
    split
    next hprefix =>
      obtain ⟨rest, rfl⟩ := hprefix
      have hfile := FileTree.entryAt_eq_file_iff.mp hentry
      cases rest with
      | nil => exact absurd (List.append_nil target) hlocation
      | cons name rest => simp [FileTree.entryAt, FileTree.find?_append, hfile, FileTree.find?]
    next => rfl
  · simp [hremoved]

end Disk

namespace Artifact

variable {a : Artifact} {disk after : Disk} {target : Location}

-- A file that is begun once is begun again after it was removed.
theorem write_of_remove (hnames : Pathname.NamesFile a.path)
    (hsize : ∀ name ∈ (Pathname.names a.path).getLast?, name.utf8ByteSize ≤ Disk.maxName)
    (h : disk.remove a.path = some after) (ht : disk.target? a.path = some target)
    (hd : disk.entryAt target ≠ some .directory) :
    ∃ made, a.write after = (.ok .written, made) ∧ made.readText a.path = .ok a.content := by
  have hr := Disk.rewritten_of_remove h ht hd
  have ht' : after.target? a.path = some target := (hr.target? a.path).symm.trans ht
  have hgone : after.exists? a.path = false := by
    obtain ⟨other, ho, hentry⟩ := Disk.entryAt_of_remove h
    obtain rfl : target = other := Option.some.inj (ht.symm.trans ho)
    rw [Bool.eq_false_iff]
    intro hexists
    obtain ⟨found, hfound, hsome⟩ := Disk.target?_of_exists? hnames hexists
    obtain rfl : target = found := Option.some.inj (ht'.symm.trans hfound)
    simp [hentry] at hsome
  have hkept : a.isKept after = false := by
    rw [Bool.eq_false_iff]
    intro hkept
    simp [(isKept_iff.mp hkept).2] at hgone
  have hwrite : after.write a.path a.bytes = .ok (after.put target (.file a.bytes)) :=
    Disk.write_ok_iff.mpr ⟨target, ht', hnames.slash, hsize, hr.root.replaced, rfl⟩
  exact ⟨_, write_ok_iff.mpr (.inr ⟨hkept, rfl, hwrite⟩), Disk.readText_of_write hwrite⟩

end Artifact

end StepCommand
