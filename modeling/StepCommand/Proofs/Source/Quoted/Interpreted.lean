import Mathlib.Data.List.Flatten
import StepCommand.Proofs.Source.Command.Agreement
import StepCommand.Proofs.Source.Quoted
import StepCommand.Proofs.Source.Sections

namespace StepCommand

open Literal (IsPlain Interprets interprets_quoted_iff)
open Template
open Text (Between)
open Source.Command

variable {step : Step} {exportPrefix : Option String} {a : Assembly}

-- The text of a default that is looked up, cut at its quotes.
theorem Literal.undeclared_string (name : String) :
    (ofDefault name .string none).text =
      "os.Getenv(" ++ ("\"" ++ (("PIPER_" ++ name) ++ ("\"" ++ ")"))) := by
  have hopening : "os.Getenv(\"PIPER_" = "os.Getenv(" ++ ("\"" ++ "PIPER_") := by simp
  have hclosing : "\")" = "\"" ++ ")" := by simp
  unfold ofDefault undeclared
  simp only [hopening, hclosing]
  simp only [String.append_assoc]

theorem TypedParameter.between_default {p : TypedParameter}
    (h : p.type.tag = p.declaration.kind) :
    Between "\"" "\"" p.declaration.looksUp p.literal.text := by
  unfold Parameter.looksUp
  split
  next hstring =>
    have htype : p.type = .string := ParameterType.tag_eq_string_iff.mp (h.trans hstring.1)
    have htext : p.literal.text = (Literal.ofDefault p.name .string none).text := by
      rw [literal, htype, Option.isNone_iff_eq_none.mp hstring.2]
    rw [htext, Literal.undeclared_string]
    exact (Between.nil ..).cons _
  next => trivial

theorem Source.Command.Flag.between_text {f : Flag} {strings : List String}
    (h : Between "\"" "\"" strings f.default) :
    Between "\"" "\"" (f.name :: (strings ++ [f.description])) f.text := by
  have hfirst : ", \"" = ", " ++ "\"" := by simp
  have hsecond : "\", " = "\"" ++ ", " := by simp
  have hlast : "\")\n" = "\"" ++ ")\n" := by simp
  have htext : f.text = ("\tcmd.Flags()." ++ f.setter ++ "(&stepConfig." ++ f.field ++ ", ") ++
      ("\"" ++ (f.name ++ ("\"" ++ ((", " ++ f.default) ++
        (", " ++ ("\"" ++ (f.description ++ ("\"" ++ ")\n")))))))) := by
    unfold Flag.text
    simp only [hfirst, hsecond, hlast]
    simp only [String.append_assoc]
  have hdescription : Between "\"" "\"" [f.description]
      (", " ++ ("\"" ++ (f.description ++ ("\"" ++ ")\n")))) := (Between.nil ..).cons _
  rw [htext]
  exact (((h.prepend ", ").append hdescription).prepend "\"").cons _

theorem Source.Command.between_requiredText (name : String) :
    Between "\"" "\"" [name] (requiredText name) := by
  have hopening : "\tcmd.MarkFlagRequired(\"" = "\tcmd.MarkFlagRequired(" ++ "\"" := by simp
  have hclosing : "\")\n" = "\"" ++ ")\n" := by simp
  unfold requiredText
  simp only [hopening, hclosing]
  simp only [String.append_assoc]
  exact (Between.nil ..).cons _

theorem Assembly.between_flagsText (h : ∀ p ∈ a.declared, p.type.tag = p.declaration.kind) :
    Between "\"" "\"" ((a.parameters.flatMap fun p => p.declaration.flagged) ++
      (a.declared.filter fun p => p.declaration.mandatory).map TypedParameter.name)
      (a.interface.flagsText a.step.name a.flagsName) := by
  have hflags : Between "\"" "\"" (a.parameters.flatMap fun p => p.declaration.flagged)
      (String.join (a.parameters.map fun p => p.flag.text)) := by
    refine Between.join fun p hp => ?_
    have hdeclared : p ∈ a.declared := List.mem_of_find?_eq_some (mem_uniqueBy_iff.mp hp)
    exact Flag.between_text (TypedParameter.between_default (h p hdeclared))
  have hrequired : Between "\"" "\""
      ((a.declared.filter fun p => p.declaration.mandatory).map TypedParameter.name)
      (String.join ((a.declared.filter fun p => p.declaration.mandatory).map
        fun p => requiredText p.name)) :=
    Between.join_single fun p _ => between_requiredText p.name
  unfold Interface.flagsText Assembly.interface
  simp only [List.map_map, Function.comp_def]
  exact ((((hflags.prepend _).extend _).append hrequired).extend _)

theorem Assembly.between_definitionsText {resources : List Resource} {stepName : String}
    (h : List.Forall₂ (Resource.Builds stepName) resources a.outputs) :
    Between "\"" "\"" (resources.flatMap Resource.stored) a.definitionsText := by
  rw [definitionsText]
  generalize a.outputs = outputs at h
  induction h with
  | nil => trivial
  | cons hfirst _ ih =>
      rw [List.flatMap_cons, List.map_cons, String.join_cons]
      exact (((Resource.between_stored hfirst).extend "\n").prepend "\n").append ih

section File

variable (h : step.assemble exportPrefix = .ok a)

include h

theorem Step.introduced_of_assemble :
    textsOf .step constructorPlaces (Scope.ofRecord a.toValue) = step.introduced := by
  obtain ⟨_, _, _, hstep, _⟩ := assemble_ok_iff.mp h
  rw [textsOf_constructorPlaces, hstep, names_of_assemble h, introduced]

theorem Step.flagged_of_assemble :
    step.flagged = (a.parameters.flatMap fun p => p.declaration.flagged) ++
      (a.declared.filter fun p => p.declaration.mandatory).map TypedParameter.name := by
  obtain ⟨_, hdeclared, _, _, _⟩ := assemble_ok_iff.mp h
  obtain ⟨hparameters, _⟩ := TypedParameter.mapM_ok hdeclared
  rw [flagged, ← hparameters, ← Assembly.map_declaration_parameters, List.flatMap_map,
    List.filter_map, List.map_map]
  rfl

theorem Step.described_of_assemble :
    textsOf .step accessorPlaces (Scope.ofRecord a.toValue) = step.described := by
  obtain ⟨_, hdeclared, _, hstep, _⟩ := assemble_ok_iff.mp h
  obtain ⟨hparameters, htyped⟩ := TypedParameter.mapM_ok hdeclared
  rw [textsOf_accessorPlaces htyped, hparameters, hstep]

theorem Step.between_quoted :
    ∃ text, SourceFile.command.content a = .ok text ∧ Between "\"" "\"" step.quoted text := by
  obtain ⟨_, hdeclared, _, _, _⟩ := assemble_ok_iff.mp h
  obtain ⟨_, htyped⟩ := TypedParameter.mapM_ok hdeclared
  obtain ⟨text, htext, hsections⟩ := exists_sections a
  refine ⟨text, htext, ?_⟩
  have hdefinitions := Assembly.between_definitionsText (outputs_of_assemble h)
  have hflags := Assembly.between_flagsText htyped
  rw [← flagged_of_assemble h] at hflags
  cases hsections with
  | parts _ hbody htail =>
      have hconstructor : Between "\"" "\"" (textsOf .step (placesBetween "\"" "\"" constructor)
          (Scope.ofRecord a.toValue)) _ := between_of_fillAll hbody
      have haccessor : Between "\"" "\"" (textsOf .step (placesBetween "\"" "\"" accessor)
          (Scope.ofRecord a.toValue)) _ := between_of_fillAll htail
      rw [placesBetween_constructor, introduced_of_assemble h] at hconstructor
      rw [placesBetween_accessor, described_of_assemble h] at haccessor
      exact ((hdefinitions.append (hconstructor.append (hflags.append haccessor))).prepend
        _).prepend _

-- No place between double quotes is left out. The variables of the environment stand in defaults,
-- not in places of their own.
theorem Step.sublist_quoted :
    (step.built.flatMap (Resource.definitionTexts step.name) ++
      textsOf .step (placesBetween "\"" "\"" template) (Scope.ofRecord a.toValue)).Sublist
        step.quoted := by
  have hflags : (textsOf .step flagPlaces (Scope.ofRecord a.toValue)).Sublist step.flagged := by
    rw [textsOf_flagPlaces, flagged_of_assemble h]
    refine List.Sublist.append_right (List.Sublist.flatMap_right _ fun p _ => ?_) _
    exact (List.sublist_append_right _ _).cons_cons _
  have hstored : step.built.flatMap (Resource.definitionTexts step.name) =
      step.built.flatMap Resource.stored :=
    congrArg (step.built.flatMap ·) (funext (Resource.definitionTexts_eq step.name))
  rw [placesBetween_template, textsOf_append, textsOf_append, introduced_of_assemble h,
    described_of_assemble h, hstored, quoted]
  exact (((hflags.append_right _).append_left _).append_left _)

-- A string between double quotes reads as it is exactly if it has no quote, no backslash and no
-- line break in it, of which only the names of the step and of stored values are sure.
theorem Step.quoted_interprets_iff :
    ∃ text, SourceFile.command.content a = .ok text ∧ Between "\"" "\"" step.quoted text ∧
      (step.built.flatMap (Resource.definitionTexts step.name) ++
        textsOf .step (placesBetween "\"" "\"" template) (Scope.ofRecord a.toValue)).Sublist
          step.quoted ∧
      (∀ s ∈ step.quoted, Interprets (Literal.quoted s) s ↔ IsPlain s) ∧
      ∀ s ∈ step.name :: step.built.flatMap Resource.stored, IsPlain s := by
  obtain ⟨text, htext, hbetween⟩ := between_quoted h
  refine ⟨text, htext, hbetween, sublist_quoted h, fun s _ => interprets_quoted_iff, ?_⟩
  have hname : IsPlain step.name := Name.isPlain_of_isIdentifier (step_of_assemble h).2
  have hstored : ∀ s ∈ step.built.flatMap Resource.stored, IsPlain s := by
    intro s hs
    obtain ⟨r, hr, hmem⟩ := List.mem_flatMap.mp hs
    exact Resource.isPlain_stored (isSound_of_mem_built h r hr) s hmem
  exact List.forall_mem_cons.mpr ⟨hname, hstored⟩

end File

-- The name of a flag is read with what is put before it; a description with a backslash is not read
-- as it is.
theorem Step.quoted_interprets_iff_backslash :
    let step : Step := {
      name := "deploy"
      description := "copies to C:\\temp"
      parameters := [{ name := "apiToken", kind := "string", description := "access" }]
      resources := [
        { name := "env", kind := "piperEnvironment", entries := [{ name := "git/commitId" }] },
        { name := "report", kind := "file" }] }
    let strings := ["git", "commitId", "deploy", "copies to C:\\temp", "env", "apiToken",
      "PIPER_apiToken", "access", "deploy", "copies to C:\\temp", "apiToken", "string", "env",
      "piperEnvironment", "git/commitId", "report", "file"]
    ∃ a text, step.assemble none = .ok a ∧ SourceFile.command.content a = .ok text ∧
      Between "\"" "\"" strings text ∧
      Interprets (Literal.quoted "PIPER_apiToken") "PIPER_apiToken" ∧
      ¬Interprets (Literal.quoted step.description) step.description := by
  intro step strings
  have hok : (step.assemble none).toOption.isSome = true := by decide +kernel
  have hstrings : step.quoted = strings := by decide +kernel
  rcases h : step.assemble none with failure | a
  · simp [h, Except.toOption] at hok
  · obtain ⟨text, htext, hbetween, _, hreads, _⟩ := Step.quoted_interprets_iff h
    rw [hstrings] at hbetween hreads
    refine ⟨a, text, rfl, htext, hbetween, (hreads _ ?_).mpr ?_, fun hread => ?_⟩
    · decide +kernel
    · decide +kernel
    · have hplain := (hreads step.description (by decide +kernel)).mp hread
      revert hplain
      decide +kernel

-- A quote in a description ends the string.
theorem Step.description_not_interpreted :
    ¬∀ (step : Step) (exportPrefix : Option String) (a : Assembly),
      step.assemble exportPrefix = .ok a →
      ∀ s ∈ textsOf .step (placesBetween "\"" "\"" template) (Scope.ofRecord a.toValue),
        Interprets (Literal.quoted s) s := by
  intro h
  let step : Step := { name := "deploy", description := "says \"hello\"" }
  have hok : step.assemble none = .ok ⟨step, "", [], []⟩ :=
    assemble_ok_iff.mpr ⟨by decide +kernel, rfl, rfl, rfl, rfl⟩
  have hmem : step.description ∈ textsOf .step (placesBetween "\"" "\"" template)
      (Scope.ofRecord (Assembly.toValue ⟨step, "", [], []⟩)) := by
    rw [placesBetween_template, textsOf_append, textsOf_constructorPlaces]
    exact List.mem_append_left _ (List.mem_cons_of_mem _ List.mem_cons_self)
  have hplain := interprets_quoted_iff.mp (h step none _ hok _ hmem)
  revert hplain
  decide +kernel

end StepCommand
