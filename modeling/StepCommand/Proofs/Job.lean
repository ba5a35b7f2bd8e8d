import StepCommand.Job
import StepCommand.Proofs.Disk.MakeAll
import StepCommand.Proofs.Generator.Again
import StepCommand.Proofs.Generator.Listed

namespace StepCommand

open Artifact (Written)
open Discovery (metadataFiles)
open Source

variable {job : Job} {disk after : Disk} {failure : Failure} {r : Report}

namespace Job

def directory (job : Job) : String := job.settings.directory

def generator (job : Job) : Generator := ⟨job.directory, job.settings.exportPrefix⟩

theorem run_on (job : Job) (disk : Disk) :
    job.run.on disk =
      match disk.makeDirectories job.directory with
      | (.ok _, made) => (job.generator.generate job.metadata).on made
      | (.error cause, made) => (.error (.fileSystem job.directory cause), made) := by
  have hgenerator : job.settings.generator.on disk =
      match disk.makeDirectories job.directory with
      | (.ok _, made) => (.ok job.generator, made)
      | (.error cause, made) => (.error (.fileSystem job.directory cause), made) := rfl
  unfold run
  rw [RunOn.bind_on, hgenerator]
  rcases disk.makeDirectories job.directory with ⟨cause | _, made⟩ <;> rfl

-- A run ends where the target directory cannot be made, where the metadata files cannot be found,
-- or as the processing of these files does.
theorem run_cases {result : Except Failure Report} (h : job.run.on disk = (result, after)) :
    (∃ cause, disk.makeDirectories job.directory = (.error cause, after) ∧
      result = .error (.fileSystem job.directory cause)) ∨
    ∃ made, disk.makeDirectories job.directory = (.ok (), made) ∧
      ((∃ failure, metadataFiles made job.metadata = .error failure ∧ after = made ∧
        result = .error failure) ∨
      ∃ paths, metadataFiles made job.metadata = .ok paths ∧
        (job.generator.process paths).on made = (result, after)) := by
  rw [run_on] at h
  rcases hmade : disk.makeDirectories job.directory with ⟨cause | _, made⟩
  · rw [hmade] at h
    cases h
    exact .inl ⟨cause, rfl, rfl⟩
  · rw [hmade] at h
    simp only [Generator.generate_on] at h
    refine .inr ⟨made, rfl, ?_⟩
    cases hm : metadataFiles made job.metadata with
    | error failure =>
        rw [hm] at h
        cases h
        exact .inl ⟨failure, rfl, rfl, rfl⟩
    | ok paths =>
        rw [hm] at h
        exact .inr ⟨paths, rfl, h⟩

theorem run_of_cause {cause : Disk.Cause}
    (h : disk.makeDirectories job.directory = (.error cause, after)) :
    job.run.on disk = (.error (.fileSystem job.directory cause), after) := by
  rw [run_on, h]

theorem run_of_made {made : Disk} (h : disk.makeDirectories job.directory = (.ok (), made)) :
    job.run.on disk = match metadataFiles made job.metadata with
      | .ok paths => (job.generator.process paths).on made
      | .error failure => (.error failure, made) := by
  rw [run_on, h]
  exact Generator.generate_on _ _ _

-- Once the target directory is made, what is written leaves it there.
theorem makeDirectories_of_written {made : Disk} {xs : List Artifact} {outcomes : List Outcome}
    (h : disk.makeDirectories job.directory = (.ok (), made))
    (hw : Written made xs outcomes after) :
    after.makeDirectories job.directory = (.ok (), after) := by
  obtain hall | ⟨hd, hall⟩ := Disk.makeDirectories_of_isDirectory? h
  · exact hall after
  · exact hall after (hw.isDirectory? hd)

-- A second run comes to process the same files, if the first one has only written sources.
theorem run_of_written {made : Disk} {paths : List String} {xs : List Artifact}
    {outcomes : List Outcome} (h : disk.makeDirectories job.directory = (.ok (), made))
    (hm : metadataFiles made job.metadata = .ok paths) (hw : Written made xs outcomes after)
    (hx : ∀ x ∈ xs, job.generator.IsSource x) :
    job.run.on after = (job.generator.process paths).on after := by
  rw [run_of_made (makeDirectories_of_written h hw), Generator.metadataFiles_of_written hw hx hm]

theorem run_again_of_ok (h : job.run.on disk = (.ok r, after)) :
    job.run.on after = (.ok ⟨r.steps, job.generator.outcomesAgain r.steps⟩, after) ∧
      (job.generator.outcomesAgain r.steps).map Outcome.path = r.outcomes.map Outcome.path := by
  obtain ⟨cause, _, he⟩ | ⟨made, hmade, ⟨failure, _, _, he⟩ | ⟨paths, hm, hr⟩⟩ := run_cases h
  · cases he
  · cases he
  · have hp := Discovery.not_endsInGo_of_metadataFiles hm
    obtain ⟨as, _, _, hw, hx⟩ := Generator.written_of_process hp hr
    rw [run_of_written hmade hm hw hx]
    exact Generator.process_again_of_ok hp hr

theorem run_again_of_error (h : job.run.on disk = (.error failure, after)) :
    job.run.on after = (.error failure, after) ∨
      ".." ∈ Pathname.names job.directory ∧ failure = .fileSystem job.directory .exists ∧
        job.run.on after = (.error (.fileSystem job.directory .notDirectory), after) := by
  obtain ⟨cause, hmade, he⟩ | ⟨made, hmade, ⟨cause, hm, rfl, he⟩ | ⟨paths, hm, hr⟩⟩ := run_cases h
  · cases he
    obtain ⟨other, hother, rfl | ⟨hback, rfl, rfl⟩⟩ := Disk.makeDirectories_again_of_error hmade
    · exact .inl (run_of_cause hother)
    · exact .inr ⟨hback, rfl, run_of_cause hother⟩
  · cases he
    refine .inl ?_
    rw [run_of_made (makeDirectories_of_written hmade (.nil _)), hm]
  · have hp := Discovery.not_endsInGo_of_metadataFiles hm
    obtain ⟨xs, _, hw, hx⟩ := Generator.written_of_error hp hr
    refine .inl ?_
    rw [run_of_written hmade hm hw hx]
    exact Generator.process_again_of_error hp hr

-- A second run changes nothing. It succeeds or fails as the first one has, but for one cause: the
-- first run may have made a way, back through which a file turns up in the way.
theorem run_again (job : Job) (disk after : Disk) :
    (∀ r, job.run.on disk = (.ok r, after) →
      job.run.on after = (.ok ⟨r.steps, job.generator.outcomesAgain r.steps⟩, after) ∧
        (job.generator.outcomesAgain r.steps).map Outcome.path = r.outcomes.map Outcome.path) ∧
    (∀ failure, job.run.on disk = (.error failure, after) →
      job.run.on after = (.error failure, after) ∨
        ".." ∈ Pathname.names job.directory ∧ failure = .fileSystem job.directory .exists ∧
          job.run.on after = (.error (.fileSystem job.directory .notDirectory), after)) :=
  ⟨fun _ => run_again_of_ok, fun _ => run_again_of_error⟩

-- The target directory lies inside the metadata directory; then there is no metadata directory.
theorem run_again_inside :
    let job : Job := { metadata := "m", target := some "m/cmd" }
    let missing : Job := { metadata := "n", target := some "m/cmd" }
    let disk : Disk := ⟨.directory [("m", .directory [
      ("a.yaml", .file "metadata:\n  name: a\n".toUTF8)])], []⟩
    (∃ r after, job.run.on disk = (.ok r, after) ∧
      job.run.on after = (.ok ⟨r.steps, job.generator.outcomesAgain r.steps⟩, after) ∧
        (job.generator.outcomesAgain r.steps).map Outcome.path = r.outcomes.map Outcome.path) ∧
    ∃ failure after, missing.run.on disk = (.error failure, after) ∧
      (missing.run.on after = (.error failure, after) ∨
        ".." ∈ Pathname.names missing.directory ∧
          failure = .fileSystem missing.directory .exists ∧
          missing.run.on after =
            (.error (.fileSystem missing.directory .notDirectory), after)) := by
  intro job missing disk
  let made : Disk := ⟨.directory [("m", .directory [
    ("a.yaml", .file "metadata:\n  name: a\n".toUTF8), ("cmd", .directory [])])], []⟩
  have hmade : disk.makeDirectories "m/cmd" = (.ok (), made) := by rfl
  have hfound : metadataFiles made "m" = .ok ["m/a.yaml"] := by
    have hentries : made.entries "m" = .ok [("a.yaml", .file "metadata:\n  name: a\n".toUTF8),
        ("cmd", .directory [])] := by rfl
    have hempty : (([] : List (String × List String)).mergeSort Value.byKey).flatMap Prod.snd =
        [] := by simp
    have hshort : Discovery.isShort "m" = true := by decide
    have hinner : Discovery.isShort (Pathname.join "m" "cmd") = true := by decide
    simp only [metadataFiles, hentries, Discovery.found, Discovery.foundIn, hshort, hinner, if_true,
      hempty]
    rw [← List.singleton_append, Discovery.flatMap_mergeSort_append, List.mergeSort_singleton]
    rfl
  have hprocess : ((job.generator.process ["m/a.yaml"]).on made).1.isOk = true := by
    decide +kernel
  have hmissing : metadataFiles made "n" = .error (.fileSystem "n" .notFound) := by rfl
  have hrun : job.run.on disk = (job.generator.process ["m/a.yaml"]).on made := by
    rw [run_of_made hmade, show job.metadata = "m" from rfl, hfound]
  have herror : missing.run.on disk = (.error (.fileSystem "n" .notFound), made) := by
    rw [run_of_made hmade, show missing.metadata = "n" from rfl, hmissing]
  constructor
  · rw [← hrun] at hprocess
    rcases h : job.run.on disk with ⟨failure | r, after⟩
    · simp [h, Except.isOk, Except.toBool] at hprocess
    · exact ⟨r, after, rfl, (run_again job disk after).1 r h⟩
  · exact ⟨_, made, herror, (run_again missing disk made).2 _ herror⟩

-- The list of a run holds no whole document.
theorem broken_list :
    (Yaml.Document.ofText (Text.ofLines (Registry.lines ["a"]))).broken.isSome = true := by
  rw [Yaml.Document.ofText]
  simp (disch := rfl) only [
    Registry.lines, Registry.opening, Registry.closing, Registry.entryLine, Text.toList_ofLines,
    Template.toList_eq_spelt, String.toList_append, List.map_cons, List.map_nil,
    List.flatMap_append, List.flatMap_cons, List.flatMap_nil]
  decide +kernel

-- What a run says if it fails.
def message : Except Failure Report → String
  | .error failure => failure.text
  | .ok _ => ""

-- The second run may fail for another cause than the first one: it finds the new directory, and
-- stops at the file. On a full disk it keeps the empty file that the first run has begun and comes
-- further; where the files that are made may not be written again, or a metadata file is a link to
-- one of them, it fails although the first has succeeded.
theorem run_again_differs :
    let job : Job := { metadata := "m", target := some "N/../B/C" }
    let disk : Disk := ⟨.directory [("B", .file .empty)], []⟩
    let made : Disk := ⟨.directory [("B", .file .empty), ("N", .directory [])], []⟩
    let g : Generator := ⟨"out", none⟩
    let a := "metadata:\n  name: a\n".toUTF8
    let full : Volume := {
      disk := ⟨.directory [("m", .directory [("a.yaml", .file a)]), ("out", .directory [])], []⟩
      faults := [none, none, some (.brokenOff 0 .noSpace), none, none,
        some (.brokenOff 0 .noSpace)] }
    let readOnly : Volume := { full with faults := List.replicate 5 none ++ [some (.refused .denied)] }
    let linked : Volume := {
      disk := ⟨.directory [("m", .directory []),
        ("out", .directory [("metadata_generated.go", .file a)])], []⟩
      links := [(["m", "a.yaml"], "../out/metadata_generated.go")] }
    (job.run.on disk = (.error (.fileSystem "N/../B/C" .exists), made) ∧
      job.run.on made = (.error (.fileSystem "N/../B/C" .notDirectory), made)) ∧
    (∃ failure mid other after, (g.process ["m/a.yaml"]).on full = (.error failure, mid) ∧
      (g.process ["m/a.yaml"]).on mid = (.error other, after) ∧ failure ≠ other ∧
      after.entryAt ["out", "a_test.go"] ≠ mid.entryAt ["out", "a_test.go"]) ∧
    (∃ r mid failure after, (g.process ["m/a.yaml"]).on readOnly = (.ok r, mid) ∧
      (g.process ["m/a.yaml"]).on mid = (.error failure, after)) ∧
    ∃ r mid failure after, (g.process ["m/a.yaml"]).on linked = (.ok r, mid) ∧
      (g.process ["m/a.yaml"]).on mid = (.error failure, after) := by
  intro job disk made g a full readOnly linked
  have hmade : disk.makeDirectories "N/../B/C" = (.error .exists, made) := by rfl
  have hagain : made.makeDirectories "N/../B/C" = (.error .notDirectory, made) := by rfl
  refine ⟨⟨run_of_cause hmade, run_of_cause hagain⟩, ?_, ?_, ?_⟩
  · have hruns : ((g.process ["m/a.yaml"]).on full).1.isOk = false ∧
        ((g.process ["m/a.yaml"]).on ((g.process ["m/a.yaml"]).on full).2).1.isOk = false ∧
        message ((g.process ["m/a.yaml"]).on full).1 ≠
          message ((g.process ["m/a.yaml"]).on ((g.process ["m/a.yaml"]).on full).2).1 ∧
        ((g.process ["m/a.yaml"]).on ((g.process ["m/a.yaml"]).on full).2).2.entryAt
          ["out", "a_test.go"] ≠
            ((g.process ["m/a.yaml"]).on full).2.entryAt ["out", "a_test.go"] := by
      decide +kernel
    obtain ⟨failure, mid, hfirst⟩ := RunOn.exists_error_of_isOk hruns.1
    rw [hfirst] at hruns
    obtain ⟨other, after, hsecond⟩ := RunOn.exists_error_of_isOk hruns.2.1
    rw [hsecond] at hruns
    exact ⟨failure, mid, other, after, hfirst, hsecond,
      fun h => hruns.2.2.1 (congrArg Failure.text h), hruns.2.2.2⟩
  · have hruns : ((g.process ["m/a.yaml"]).on readOnly).1.isOk = true ∧
        ((g.process ["m/a.yaml"]).on ((g.process ["m/a.yaml"]).on readOnly).2).1.isOk = false := by
      decide +kernel
    exact RunOn.exists_ok_error hruns.1 hruns.2
  · have hsteps : (((g.process ["m/a.yaml"]).on linked).1.toOption.any fun r =>
        r.steps = ["a"]) = true := by
      decide +kernel
    obtain ⟨r, mid, hrun, hr⟩ := RunOn.exists_ok_of_any hsteps
    have hlist : linked.target? (g.path Registry.fileName) =
        some ["out", "metadata_generated.go"] := by decide +kernel
    have hpath : linked.target? "m/a.yaml" = some ["out", "metadata_generated.go"] := by
      decide +kernel
    have htext := Generator.readText_of_target? hrun (by decide) hlist hpath rfl
    rw [of_decide_eq_true hr] at htext
    obtain ⟨failure, hread⟩ := Generator.readAssembly_of_broken htext broken_list
    exact ⟨r, mid, failure, mid, hrun, Generator.process_error_iff.mpr
      (.inl ⟨[], _, [], [], [], mid, rfl, .nil mid, .inl ⟨hread, rfl⟩⟩)⟩

end Job

end StepCommand
