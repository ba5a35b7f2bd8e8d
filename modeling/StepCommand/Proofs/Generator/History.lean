import StepCommand.Proofs.Generator.Confinement

namespace StepCommand

-- A run that is over: what it was given, and the files before and after it.
structure Session where
  generator : Generator
  paths : List String
  before : Volume
  after : Volume

namespace Session

variable (s : Session) (location : Location)

def IsStep : String → Prop := s.generator.IsStep s.paths s.before

def Replaces : Prop := s.generator.Replaces s.IsStep s.before location

def Makes : Prop := s.generator.Makes s.IsStep s.before location

def Confined : Prop := s.generator.Confined s.IsStep s.before s.after

end Session

-- Between two runs, files and links may be changed, made and removed where `edited` holds, and other
-- things may be closed. A run may succeed or fail.
inductive History (edited : Location → Prop) : Volume → List Session → Volume → Prop where
  | nil (v : Volume) : History edited v [] v
  | run {v mid after : Volume} {g : Generator} {paths : List String}
      {result : Except Failure Report} {sessions : List Session}
      (head : (g.process paths).on v = (result, mid)) (tail : History edited mid sessions after) :
      History edited v (⟨g, paths, v, mid⟩ :: sessions) after
  | edit {v mid after : Volume} {sessions : List Session}
      (files : ∀ location, ¬ edited location → mid.entryAt location = v.entryAt location)
      (links : ∀ location, ¬ edited location →
        mid.links.lookup location = v.links.lookup location)
      (tail : History edited mid sessions after) : History edited v sessions after

-- Each run keeps to its files, and so do all of them together. Whatever happens in between, what is
-- not generated is safe from all of them.
structure Safe (edited : Location → Prop) (v : Volume) (sessions : List Session) (after : Volume) :
    Prop where
  confined : ∀ s ∈ sessions, s.Confined
  isSome : ∀ location, ¬ edited location → (v.entryAt location).isSome →
    (after.entryAt location).isSome
  directory_iff : ∀ location, ¬ edited location →
    (after.entryAt location = some .directory ↔ v.entryAt location = some .directory)
  link : ∀ location, ¬ edited location → after.links.lookup location = v.links.lookup location
  changed : ∀ location, ¬ edited location → after.entryAt location ≠ v.entryAt location →
    ∃ s ∈ sessions, s.Replaces location ∨ s.Makes location
  replaced : ∀ location, ¬ edited location → (v.entryAt location).isSome →
    after.entryAt location ≠ v.entryAt location → ∃ s ∈ sessions, s.Replaces location

namespace Safe

variable {edited : Location → Prop} {v mid after : Volume} {sessions : List Session}

theorem nil (v : Volume) : Safe edited v [] v where
  confined := fun _ hs => absurd hs List.not_mem_nil
  isSome := fun _ _ hsome => hsome
  directory_iff := fun _ _ => Iff.rfl
  link := fun _ _ => rfl
  changed := fun _ _ hne => absurd rfl hne
  replaced := fun _ _ _ hne => absurd rfl hne

theorem edit (hfiles : ∀ location, ¬ edited location → mid.entryAt location = v.entryAt location)
    (hlinks : ∀ location, ¬ edited location →
      mid.links.lookup location = v.links.lookup location)
    (h : Safe edited mid sessions after) : Safe edited v sessions after where
  confined := h.confined
  isSome := by
    intro location hlocation hsome
    exact h.isSome location hlocation (by rwa [hfiles location hlocation])
  directory_iff := by
    intro location hlocation
    rw [h.directory_iff location hlocation, hfiles location hlocation]
  link := by
    intro location hlocation
    rw [h.link location hlocation, hlinks location hlocation]
  changed := by
    intro location hlocation hne
    exact h.changed location hlocation (by rwa [hfiles location hlocation])
  replaced := by
    intro location hlocation hsome hne
    rw [← hfiles location hlocation] at hsome hne
    exact h.replaced location hlocation hsome hne

theorem run {s : Session} (hs : s.Confined) (h : Safe edited s.after sessions after) :
    Safe edited s.before (s :: sessions) after where
  confined := List.forall_mem_cons.mpr ⟨hs, h.confined⟩
  isSome := by
    intro location hlocation hsome
    exact h.isSome location hlocation (hs.kept.isSome location hsome)
  directory_iff := by
    intro location hlocation
    rw [h.directory_iff location hlocation, hs.kept.directory_iff location]
  link := by
    intro location hlocation
    rw [h.link location hlocation, hs.kept.links]
  changed := by
    intro location hlocation hne
    by_cases hfirst : s.after.entryAt location = s.before.entryAt location
    · rw [← hfirst] at hne
      obtain ⟨t, ht, htouched⟩ := h.changed location hlocation hne
      exact ⟨t, List.mem_cons_of_mem _ ht, htouched⟩
    · obtain hreplaces | ⟨_, hmakes⟩ := hs.changed location hfirst
      · exact ⟨s, List.mem_cons_self, .inl hreplaces⟩
      · exact ⟨s, List.mem_cons_self, .inr hmakes⟩
  replaced := by
    intro location hlocation hsome hne
    by_cases hfirst : s.after.entryAt location = s.before.entryAt location
    · rw [← hfirst] at hne
      obtain ⟨t, ht, hreplaces⟩ :=
        h.replaced location hlocation (hs.kept.isSome location hsome) hne
      exact ⟨t, List.mem_cons_of_mem _ ht, hreplaces⟩
    · obtain hreplaces | ⟨hnone, _⟩ := hs.changed location hfirst
      · exact ⟨s, List.mem_cons_self, hreplaces⟩
      · rw [hnone] at hsome
        cases hsome

end Safe

theorem safe_of_history {edited : Location → Prop} {v after : Volume} {sessions : List Session}
    (h : History edited v sessions after) : Safe edited v sessions after := by
  induction h with
  | nil v => exact .nil v
  | @run v mid after g paths result sessions head tail ih =>
      have hconfined : Session.Confined ⟨g, paths, v, mid⟩ := Generator.confined_of_run head
      exact ih.run hconfined
  | edit files links tail ih => exact ih.edit files links

-- The second metadata file names a step that would lead out of the directory, so that the first run
-- fails after the sources of the first file, one of which is a link. The name is put right, and a
-- second run breaks off in the middle of a file.
theorem safe_of_history_hostile :
    let g : Generator := ⟨"out", none⟩
    let paths := ["a.yaml", "b.yaml"]
    let v : Volume := {
      disk := ⟨.directory [
        ("out", .directory [("a.go", .file "package cmd".toUTF8)]),
        ("a.yaml", .file "metadata:\n  name: a\n".toUTF8),
        ("b.yaml", .file "metadata:\n  name: ../b\n".toUTF8)], []⟩
      links := [(["out", "a_generated.go"], "../generated.go")] }
    let repair (v : Volume) : Volume :=
      { v.put ["b.yaml"] "metadata:\n  name: b\n".toUTF8 with
        faults := [none, none, some (.brokenOff 7 .overQuota)] }
    let edited : Location → Prop := fun location => location = ["b.yaml"]
    ∃ failure mid other after, (g.process paths).on v = (.error failure, mid) ∧
      (g.process ["b.yaml"]).on (repair mid) = (.error other, after) ∧
      History edited v [⟨g, paths, v, mid⟩, ⟨g, ["b.yaml"], repair mid, after⟩] after ∧
      Safe edited v [⟨g, paths, v, mid⟩, ⟨g, ["b.yaml"], repair mid, after⟩] after := by
  intro g paths v repair edited
  have hresults : ((g.process paths).on v).1.isOk = false ∧
      ((g.process ["b.yaml"]).on (repair ((g.process paths).on v).2)).1.isOk = false := by
    decide +kernel
  obtain ⟨failure, mid, hfirst⟩ := RunOn.exists_error_of_isOk hresults.1
  rw [hfirst] at hresults
  obtain ⟨other, after, hsecond⟩ := RunOn.exists_error_of_isOk hresults.2
  have hkept := (Generator.confined_of_run hfirst).kept
  have hfile : mid.entryAt ["b.yaml"] ≠ some .directory := by
    intro hdirectory
    cases (hkept.directory_iff _).mp hdirectory
  have hfiles : ∀ location, ¬ edited location →
      (repair mid).entryAt location = mid.entryAt location := by
    intro location hne
    have hput := Volume.entryAt_put ((hkept.directory_iff []).mpr rfl) hfile
      "metadata:\n  name: b\n".toUTF8 location
    exact hput.trans (if_neg hne)
  have hhistory : History edited v
      [⟨g, paths, v, mid⟩, ⟨g, ["b.yaml"], repair mid, after⟩] after :=
    .run hfirst (.edit hfiles (fun _ _ => rfl) (.run hsecond (.nil after)))
  exact ⟨failure, mid, other, after, hfirst, hsecond, hhistory, safe_of_history hhistory⟩

-- Files elsewhere are made and replaced where links lead to them, and a source that was begun for one
-- step is replaced as a generated one of another.
theorem process_strays :
    let g : Generator := ⟨"out", none⟩
    let step := ("a.yaml", FileTree.file "metadata:\n  name: a\n".toUTF8)
    let other := ("b.yaml", FileTree.file "metadata:\n  name: a_generated\n".toUTF8)
    let byHand := FileTree.file "package main".toUTF8
    let linked : Volume := {
      disk := ⟨.directory [("out", .directory []), ("hand.go", byHand), step], []⟩
      links := [(["out", "a_generated.go"], "../hand.go"), (["out", "a.go"], "../new.go")] }
    let shared : Volume := {
      disk := ⟨.directory [("out", .directory [("a_generated.go", byHand)]), step, other], []⟩ }
    (∃ r after, (g.process ["a.yaml"]).on linked = (.ok r, after) ∧
      linked.entryAt ["new.go"] = none ∧ (after.entryAt ["new.go"]).isSome ∧
      after.entryAt ["hand.go"] ≠ linked.entryAt ["hand.go"]) ∧
    ∃ r after, (g.process ["a.yaml", "b.yaml"]).on shared = (.ok r, after) ∧
      after.entryAt ["out", "a_generated.go"] ≠ shared.entryAt ["out", "a_generated.go"] := by
  intro g step other byHand linked shared
  constructor
  · have hrun : ((g.process ["a.yaml"]).on linked).1.isOk = true ∧
        (((g.process ["a.yaml"]).on linked).2.entryAt ["new.go"]).isSome = true ∧
        ((g.process ["a.yaml"]).on linked).2.entryAt ["hand.go"] ≠
          linked.entryAt ["hand.go"] := by
      decide +kernel
    obtain ⟨r, after, h⟩ := RunOn.exists_ok_of_isOk hrun.1
    rw [h] at hrun
    exact ⟨r, after, h, rfl, hrun.2⟩
  · have hrun : ((g.process ["a.yaml", "b.yaml"]).on shared).1.isOk = true ∧
        ((g.process ["a.yaml", "b.yaml"]).on shared).2.entryAt ["out", "a_generated.go"] ≠
          shared.entryAt ["out", "a_generated.go"] := by
      decide +kernel
    obtain ⟨r, after, h⟩ := RunOn.exists_ok_of_isOk hrun.1
    rw [h] at hrun
    exact ⟨r, after, h, hrun.2⟩

end StepCommand
