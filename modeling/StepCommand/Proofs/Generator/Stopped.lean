import StepCommand.Proofs.Generator.Reading
import StepCommand.Proofs.Volume.Artifact

namespace StepCommand.Generator

open Artifact (Written Left settled)
open Discovery (IsMetadataPath)
open Pathname (EndsInGo)

variable {g : Generator} {v turn mid after : Volume} {failure : Failure} {paths : List String}
  {path : String} {a : Assembly} {as : List Assembly} {xs : List Artifact}
  {outcomes : List Outcome}

-- Where no links are, metadata files read the same whatever has been generated in between.
theorem entryAt_of_target? (hlinks : v.links = []) (hx : ∀ x ∈ xs, g.IsSource x)
    (hp : IsMetadataPath path) (h : Written v xs outcomes after) {target : Location}
    (ht : v.target? path = some target) : after.entryAt target = v.entryAt target := by
  have hnames := namesFile_of_isSource hx
  by_contra hne
  have hd : v.entryAt target ≠ some .directory := by
    intro hd
    exact hne (((h.kept hnames).directory_iff target).mpr hd ▸ hd.symm)
  obtain ⟨x, hmem, htx, _⟩ := h.exists_of_ne hnames hne
  have hpath : Pathname.names path ≠ [] := by
    obtain ⟨name, hsteps, _⟩ := hp
    intro hnil
    obtain hlast | hlast := Pathname.getLast?_names_of_steps hsteps <;> simp [hnil] at hlast
  obtain ⟨front, hlast⟩ := (hx x hmem).last
  have hsame := (Volume.getLast?_of_target? hlinks hpath ht hd).symm.trans
    (Volume.getLast?_of_target? hlinks (Volume.names_ne_nil (hnames x hmem)) htx hd)
  exact hp.not_endsInGo ⟨front, hsame.trans hlast⟩

theorem readAssembly_of_written (hlinks : v.links = []) (hx : ∀ x ∈ xs, g.IsSource x)
    (hp : IsMetadataPath path) (h : Written v xs outcomes after) :
    g.readAssembly path after = .ok a ↔ g.readAssembly path v = .ok a := by
  simp only [readAssembly_ok_iff]
  refine exists_congr fun text => exists_congr fun step => and_congr_left' ?_
  exact (h.kept (namesFile_of_isSource hx)).readText_iff fun _ ht =>
    entryAt_of_target? hlinks hx hp h ht

theorem forall₂_of_processed (hlinks : v.links = []) (hp : ∀ path ∈ paths, IsMetadataPath path)
    (hx : ∀ x ∈ xs, g.IsSource x) (hw : Written v xs outcomes mid) {more : List Outcome}
    (h : Processed g mid paths as more after) :
    List.Forall₂ (fun path a => g.readAssembly path v = .ok a) paths as := by
  induction h generalizing xs outcomes with
  | nil mid => exact .nil
  | cons read head tail ih =>
      have hsources := isSource_of_mem_sources (g := g) (isIdentifier_of_readAssembly read)
      refine .cons ((readAssembly_of_written hlinks hx (hp _ List.mem_cons_self) hw).mp read) ?_
      exact ih (fun other hmem => hp other (List.mem_cons_of_mem _ hmem))
        (List.forall_mem_append.mpr ⟨hx, hsources⟩) (hw.append head)

-- Why a run has stopped at the file with the number `k`, which has found `turn`: `part` of its
-- sources have been written, and the next one has been tried on `mid`. The list of the steps comes
-- after the last file.
inductive Stop (g : Generator) (paths : List String) (as : List Assembly) :
    Nat → Volume → List Artifact → Volume → Failure → Volume → Prop where
  | read {k : Nat} {path : String} {turn : Volume} {failure : Failure} (hk : paths[k]? = some path)
      (h : g.readAssembly path turn = .error failure) : Stop g paths as k turn [] turn failure turn
  | source {k : Nat} {path : String} {a : Assembly} {part rest : List Artifact} {x : Artifact}
      {outcomes : List Outcome} {turn mid after : Volume} {failure : Failure}
      (hk : paths[k]? = some path) (hread : g.readAssembly path turn = .ok a)
      (hpart : (part ++ x :: rest).map .ok = SourceFile.all.map fun file => g.artifact file a)
      (hwritten : Written turn part outcomes mid) (h : x.write mid = (.error failure, after))
      (left : Left x mid after) : Stop g paths as k turn part mid failure after
  | registry {x : Artifact} {turn after : Volume} {failure : Failure}
      (hlist : g.registry (as.map (·.step.name)) = .ok x)
      (h : x.write turn = (.error failure, after)) (left : Left x turn after) :
      Stop g paths as paths.length turn [] turn failure after

-- A run that has processed the first `k` files, and then stopped.
structure Stopped (g : Generator) (paths : List String) (v : Volume) (failure : Failure)
    (after : Volume) (k : Nat) (as : List Assembly) (done part : List Artifact)
    (turn mid : Volume) : Prop where
  processed : ∃ outcomes, Processed g v (paths.take k) as outcomes turn
  rendered : done.map .ok = as.flatMap fun a => SourceFile.all.map fun file => g.artifact file a
  written : ∃ outcomes, Written v (done ++ part) outcomes mid
  atLocation : ∀ location, mid.entryAt location =
    settled (v.entryAt location)
      ((done ++ part).filter fun a => v.target? a.path = some location)
  stop : Stop g paths as k turn part mid failure after
  kept : v.Kept after
  read : v.links = [] →
    List.Forall₂ (fun path a => g.readAssembly path v = .ok a) (paths.take k) as
  later : k < paths.length → ∀ others,
    (g.process (paths.take (k + 1) ++ others)).on v = (.error failure, after)

theorem Stop.kept {k : Nat} {part : List Artifact} (h : Stop g paths as k turn part mid failure after)
    : mid.Kept after := by
  cases h with
  | read hk h => exact .refl _
  | source hk hread hpart hwritten h left =>
      have hx := isSource_of_mem_sources (g := g) (isIdentifier_of_readAssembly hread)
      rw [map_artifact] at hpart
      have hmem : _ ∈ g.sources _ := (List.map_inj_right fun _ _ => Except.ok.inj).mp hpart ▸
        List.mem_append_right _ List.mem_cons_self
      exact Artifact.kept_of_write (namesFile_of_isSource hx _ hmem) h
  | registry hlist h left =>
      rw [registry_eq] at hlist
      cases hlist
      exact Artifact.kept_of_write (isSource_list g _).within.namesFile h

-- What all runs that have come to the file with the number `k` have in common.
theorem stopped_of_stop {k : Nat} {part : List Artifact}
    (hp : ∀ path ∈ paths, IsMetadataPath path)
    (hprocessed : Processed g v (paths.take k) as outcomes turn)
    (hpart : ∀ x ∈ part, g.IsSource x) {second : List Outcome} (hw : Written turn part second mid)
    (hstop : Stop g paths as k turn part mid failure after)
    (hlater : k < paths.length → ∀ others,
      (g.process (paths.take (k + 1) ++ others)).on v = (.error failure, after)) :
    Stopped g paths v failure after k as (g.allSources as) part turn mid := by
  obtain ⟨hsources, hx⟩ := hprocessed.written
  have hall := hsources.append hw
  have hnames := namesFile_of_isSource (List.forall_mem_append.mpr ⟨hx, hpart⟩)
  exact {
    processed := ⟨outcomes, hprocessed⟩
    rendered := map_allSources g as
    written := ⟨_, hall⟩
    atLocation := hall.settled_eq hnames
    stop := hstop
    kept := (hall.kept hnames).trans hstop.kept
    read := fun hlinks => forall₂_of_processed hlinks
      (fun path hmem => hp path (List.mem_of_mem_take hmem)) (fun _ h => absurd h List.not_mem_nil)
      (.nil v) hprocessed
    later := hlater }

theorem stopped_of_fails {front rest : List String}
    (hp : ∀ other ∈ front ++ path :: rest, IsMetadataPath other)
    (hprocessed : Processed g v front as outcomes turn) (h : g.Fails path turn failure after) :
    ∃ part mid, Stopped g (front ++ path :: rest) v failure after front.length as
      (g.allSources as) part turn mid := by
  have htake : (front ++ path :: rest).take front.length = front := List.take_left
  have hk : (front ++ path :: rest)[front.length]? = some path := by simp
  have hlater : ∀ others, (g.process ((front ++ path :: rest).take (front.length + 1) ++
      others)).on v = (.error failure, after) := by
    intro others
    have hnext : (front ++ path :: rest).take (front.length + 1) = front ++ [path] := by
      rw [List.append_cons]
      exact List.take_left' (by simp)
    rw [hnext, List.append_assoc, process_error_iff]
    exact .inl ⟨front, path, others, as, outcomes, turn, rfl, hprocessed, h⟩
  rw [← htake] at hprocessed
  obtain ⟨hread, rfl⟩ | ⟨a, hread, hstuck⟩ := h
  · exact ⟨[], after, stopped_of_stop hp hprocessed (fun _ h => absurd h List.not_mem_nil)
      (.nil after) (.read hk hread) fun _ => hlater⟩
  · obtain ⟨part, x, more, second, mid, hsplit, hw, hwrite⟩ := Artifact.stuck_iff.mp hstuck
    have hx := isSource_of_mem_sources (g := g) (isIdentifier_of_readAssembly hread)
    rw [hsplit] at hx
    have hnames := namesFile_of_isSource hx x (List.mem_append_right _ List.mem_cons_self)
    have hpart : (part ++ x :: more).map .ok =
        SourceFile.all.map fun file => g.artifact file a := by
      rw [map_artifact, hsplit]
    exact ⟨part, mid, stopped_of_stop hp hprocessed
      (fun y hy => hx y (List.mem_append_left _ hy)) hw
      (.source hk hread hpart hw hwrite (Artifact.left_of_write hnames hwrite)) fun _ => hlater⟩

-- The parameter for whose type a run fails, and that type.
def unknownType? : Except Failure Report → Option (String × String)
  | .error (.unknownParameterType name kind) => some (name, kind)
  | _ => none

theorem eq_of_unknownType? {result : Except Failure Report} {name kind : String}
    (h : unknownType? result = some (name, kind)) :
    result = .error (.unknownParameterType name kind) := by
  unfold unknownType? at h
  split at h
  · cases h
    rfl
  · cases h

end StepCommand.Generator
