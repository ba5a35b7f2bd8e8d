import StepCommand.Proofs.Disk.Walk
import StepCommand.Proofs.Except
import StepCommand.Volume

namespace StepCommand.Volume

open Disk (Cause)
open FileTree (Entry)

variable {v w : Volume} {location origin place : Location} {name link : String}
  {names rest front : List String} {count : Nat} {cause : Cause}

def entryAt (v : Volume) (location : Location) : Option Entry := v.disk.root.entryAt location

theorem enter_ok_iff :
    v.enter location = .ok () ↔
      v.entryAt location = some .directory ∧ v.closed.lookup location = none := by
  unfold enter Disk.entriesAt entryAt FileTree.entryAt
  cases hf : v.disk.root.find? location with
  | none => simp [bind, Except.bind]
  | some tree =>
      cases tree with
      | file content => simp [bind, Except.bind, FileTree.entry]
      | directory entries =>
          cases hc : v.closed.lookup location with
          | none => simp [bind, Except.bind, FileTree.entry, pure, Except.pure]
          | some cause =>
              simp [bind, Except.bind, FileTree.entry, throw, throwThe, MonadExceptOf.throw]

-- Where a link leads from the directory that it is in.
def origin? (v : Volume) (location : Location) (link : String) : Except Cause Location :=
  Disk.start { v.disk with here := location } link

theorem eq_of_origin? (h : v.origin? location link = .ok origin) :
    origin = location ∨ origin = [] := by
  unfold origin? Disk.start at h
  split at h
  · cases h
  · split at h
    · cases h
    · split at h
      · exact .inr (Except.ok.inj h).symm
      · exact .inl (Except.ok.inj h).symm

-- The way along the names of a path, with so many links at most.
inductive Leads (v : Volume) : Nat → Location → List String → Location → Prop where
  | here (count : Nat) (location : Location) : Leads v count location [] location
  | dot {count : Nat} {location place : Location} {rest : List String}
      (entered : v.enter location = .ok ()) (tail : Leads v count location rest place) :
      Leads v count location ("." :: rest) place
  | dots {count : Nat} {location place : Location} {rest : List String}
      (entered : v.enter location = .ok ()) (tail : Leads v count location.dropLast rest place) :
      Leads v count location (".." :: rest) place
  | name {count : Nat} {location place : Location} {name : String} {rest : List String}
      (entered : v.enter location = .ok ()) (dots : name ≠ "." ∧ name ≠ "..")
      (size : name.utf8ByteSize ≤ Disk.maxName) (none : v.links.lookup (location ++ [name]) = none)
      (tail : Leads v count (location ++ [name]) rest place) :
      Leads v count location (name :: rest) place
  | link {count : Nat} {location origin place : Location} {name link : String}
      {rest : List String} (entered : v.enter location = .ok ()) (dots : name ≠ "." ∧ name ≠ "..")
      (size : name.utf8ByteSize ≤ Disk.maxName)
      (some : v.links.lookup (location ++ [name]) = some link)
      (start : v.origin? location link = .ok origin)
      (tail : Leads v count origin (goal link ++ rest) place) :
      Leads v (count + 1) location (name :: rest) place

theorem walk_cons_ok_iff {follow : Location → List String → Except Cause Location} :
    v.walk follow location (name :: rest) = .ok place ↔
      v.enter location = .ok () ∧
        (name = "." ∧ v.walk follow location rest = .ok place ∨
          name = ".." ∧ v.walk follow location.dropLast rest = .ok place ∨
          (name ≠ "." ∧ name ≠ "..") ∧ name.utf8ByteSize ≤ Disk.maxName ∧
            ((v.links.lookup (location ++ [name]) = none ∧
                v.walk follow (location ++ [name]) rest = .ok place) ∨
              ∃ link origin, v.links.lookup (location ++ [name]) = some link ∧
                v.origin? location link = .ok origin ∧
                follow origin (goal link ++ rest) = .ok place)) := by
  rw [walk, Except.bind_ok_iff]
  constructor
  · rintro ⟨_, hentered, h⟩
    refine ⟨hentered, ?_⟩
    split at h
    next hdot => exact .inl ⟨hdot, h⟩
    next hdot =>
      split at h
      next hdots => exact .inr (.inl ⟨hdots, h⟩)
      next hdots =>
        split at h
        next => cases h
        next hsize =>
          refine .inr (.inr ⟨⟨hdot, hdots⟩, Nat.not_lt.mp hsize, ?_⟩)
          split at h
          next link hlink =>
            obtain ⟨origin, hstart, hfollow⟩ := Except.bind_ok_iff.mp h
            exact .inr ⟨link, origin, hlink, hstart, hfollow⟩
          next hnone => exact .inl ⟨hnone, h⟩
  · rintro ⟨hentered, h⟩
    refine ⟨(), hentered, ?_⟩
    obtain ⟨rfl, h⟩ | ⟨rfl, h⟩ | ⟨⟨hdot, hdots⟩, hsize, h⟩ := h
    · rw [if_pos rfl, h]
    · rw [if_neg (by decide), if_pos rfl, h]
    · rw [if_neg hdot, if_neg hdots, if_neg (Nat.not_lt.mpr hsize)]
      obtain ⟨hnone, h⟩ | ⟨link, origin, hlink, hstart, h⟩ := h
      · rw [hnone]
        exact h
      · rw [hlink]
        exact Except.bind_ok_iff.mpr ⟨origin, hstart, h⟩

theorem leads_of_walk {follow : Location → List String → Except Cause Location}
    (hfollow : ∀ {origin names link}, follow origin (goal link ++ names) = .ok place →
      ∃ fewer, count = fewer + 1 ∧ Leads v fewer origin (goal link ++ names) place)
    (h : v.walk follow location names = .ok place) : Leads v count location names place := by
  induction names generalizing location with
  | nil =>
      cases h
      exact .here _ _
  | cons name rest ih =>
      obtain ⟨hentered, ⟨rfl, hrest⟩ | ⟨rfl, hrest⟩ | ⟨hdots, hsize, h⟩⟩ := walk_cons_ok_iff.mp h
      · exact .dot hentered (ih hrest)
      · exact .dots hentered (ih hrest)
      · obtain ⟨hnone, h⟩ | ⟨link, origin, hlink, hstart, h⟩ := h
        · exact .name hentered hdots hsize hnone (ih h)
        · obtain ⟨fewer, rfl, htail⟩ := hfollow h
          exact .link hentered hdots hsize hlink hstart htail

-- What a walk does at a link, when so many links may still be followed.
def onward (v : Volume) : Nat → Location → List String → Except Cause Location
  | 0 => fun _ _ => .error .tooManyLinks
  | fewer + 1 => v.follow fewer

theorem follow_eq_onward (v : Volume) (count : Nat) : v.follow count = v.walk (v.onward count) := by
  cases count <;> rfl

theorem follow_ok_iff :
    v.follow count location names = .ok place ↔ Leads v count location names place := by
  constructor
  · intro h
    induction count generalizing location names with
    | zero => exact leads_of_walk (fun h => by cases h) h
    | succ count ih => exact leads_of_walk (fun h => ⟨count, rfl, ih h⟩) h
  · intro h
    induction h with
    | here count location =>
        cases count <;> rfl
    | dot entered tail ih =>
        rw [follow_eq_onward, walk_cons_ok_iff, ← follow_eq_onward]
        exact ⟨entered, .inl ⟨rfl, ih⟩⟩
    | dots entered tail ih =>
        rw [follow_eq_onward, walk_cons_ok_iff, ← follow_eq_onward]
        exact ⟨entered, .inr (.inl ⟨rfl, ih⟩)⟩
    | name entered dots size none tail ih =>
        rw [follow_eq_onward, walk_cons_ok_iff, ← follow_eq_onward]
        exact ⟨entered, .inr (.inr ⟨dots, size, .inl ⟨none, ih⟩⟩)⟩
    | link entered dots size some start tail ih =>
        rw [follow_eq_onward, walk_cons_ok_iff, ← follow_eq_onward]
        exact ⟨entered, .inr (.inr ⟨dots, size, .inr ⟨_, _, some, start, ih⟩⟩)⟩

namespace Leads

-- What is on the way to a name is a directory, which can be reached as well.
theorem of_append (h : Leads v count location (front ++ rest) place) :
    ∃ fewer folder, Leads v count location front folder ∧ Leads v fewer folder rest place := by
  generalize hnames : front ++ rest = names at h
  induction h generalizing front with
  | here count location =>
      obtain ⟨rfl, rfl⟩ := List.append_eq_nil_iff.mp hnames
      exact ⟨count, location, .here _ _, .here _ _⟩
  | @dot count location place tailNames entered tail ih =>
      cases front with
      | nil =>
          cases hnames
          exact ⟨count, location, .here _ _, .dot entered tail⟩
      | cons first more =>
          obtain ⟨rfl, hmore⟩ := List.cons.inj hnames
          obtain ⟨fewer, folder, hfront, hrest⟩ := ih hmore
          exact ⟨fewer, folder, .dot entered hfront, hrest⟩
  | @dots count location place tailNames entered tail ih =>
      cases front with
      | nil =>
          cases hnames
          exact ⟨count, location, .here _ _, .dots entered tail⟩
      | cons first more =>
          obtain ⟨rfl, hmore⟩ := List.cons.inj hnames
          obtain ⟨fewer, folder, hfront, hrest⟩ := ih hmore
          exact ⟨fewer, folder, .dots entered hfront, hrest⟩
  | @name count location place name tailNames entered dots size none tail ih =>
      cases front with
      | nil =>
          cases hnames
          exact ⟨count, location, .here _ _, .name entered dots size none tail⟩
      | cons first more =>
          obtain ⟨rfl, hmore⟩ := List.cons.inj hnames
          obtain ⟨fewer, folder, hfront, hrest⟩ := ih hmore
          exact ⟨fewer, folder, .name entered dots size none hfront, hrest⟩
  | @link count location origin place name link tailNames entered dots size some start tail ih =>
      cases front with
      | nil =>
          cases hnames
          exact ⟨count + 1, location, .here _ _, .link entered dots size some start tail⟩
      | cons first more =>
          obtain ⟨rfl, rfl⟩ := List.cons.inj hnames
          obtain ⟨fewer, folder, hfront, hrest⟩ := ih (List.append_assoc _ _ _)
          exact ⟨fewer, folder, .link entered dots size some start hfront, hrest⟩

end Leads

end StepCommand.Volume
