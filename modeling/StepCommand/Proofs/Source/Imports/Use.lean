import StepCommand.Proofs.Resource.Struct
import StepCommand.Proofs.Source.Command.Agreement
import StepCommand.Proofs.Source.Imports
import StepCommand.Proofs.Source.Sections
import StepCommand.Proofs.Template.Mention

namespace StepCommand

open Source.Command
open Template
open Text (Between InOrder)

variable {step : Step} {exportPrefix : Option String} {a : Assembly}

namespace Source.Command

section

set_option maxRecDepth 4000

theorem placesBetween_generalConfig :
    placesBetween "" "GeneralConfig" template = List.replicate 5 (field "qualifier") ++
      [forEach "output_resources" [rootField "qualifier"], field "qualifier"] := by
  rfl

theorem placesBetween_prepareConfig :
    placesBetween "" "PrepareConfig" template = [field "qualifier"] := by
  rfl

end

theorem mentions_shared :
    mentions "GeneralConfig" template = 7 ∧ mentions "PrepareConfig" template = 1 := by
  decide +kernel

-- A shared name that is used nowhere but behind the qualifier.
structure Qualifies (a : Assembly) (word : String) (uses : Nat) (text : String) : Prop where
  everywhere : mentions word template = placeCountOf (placesBetween "" word template)
  places : textsOf .step (placesBetween "" word template) (Scope.ofRecord a.toValue) =
    List.replicate uses a.qualifier
  between : Between "" word (List.replicate uses a.qualifier) text

section Qualified

variable {a : Assembly} {text : String}
  (h : fillAll .step template (Scope.ofRecord a.toValue) = .ok text)

include h

theorem qualifies_of_places {word : String} {uses : Nat}
    (everywhere : mentions word template = placeCountOf (placesBetween "" word template))
    (places : textsOf .step (placesBetween "" word template) (Scope.ofRecord a.toValue) =
      List.replicate uses a.qualifier) : Qualifies a word uses text where
  everywhere := everywhere
  places := places
  between := places ▸ between_of_fillAll h

theorem qualifies_generalConfig : Qualifies a "GeneralConfig" (6 + a.outputs.length) text := by
  refine qualifies_of_places h ?_ ?_
  · rw [mentions_shared.1, placesBetween_generalConfig]
    rfl
  have hqualifier : (field "qualifier").texts .step (Scope.ofRecord a.toValue) = [a.qualifier] :=
    texts_field rfl rfl
  have houtputs : (forEach "output_resources" [rootField "qualifier"]).texts .step
      (Scope.ofRecord a.toValue) = a.outputs.map fun _ => a.qualifier := by
    rw [List.map_eq_flatMap]
    exact texts_forEach rfl fun o _ position => textsOf_singleton.trans (texts_rootField rfl rfl)
  rw [placesBetween_generalConfig]
  simp only [List.replicate, List.cons_append, List.nil_append, textsOf_cons, textsOf_nil,
    hqualifier, houtputs]
  refine List.eq_replicate_iff.mpr ⟨?_, ?_⟩
  · simp
    omega
  · grind

theorem qualifies_prepareConfig : Qualifies a "PrepareConfig" 1 text := by
  refine qualifies_of_places h ?_ ?_
  · rw [mentions_shared.2, placesBetween_prepareConfig]
    rfl
  rw [placesBetween_prepareConfig, textsOf_singleton, texts_field rfl rfl]
  rfl

end Qualified

end Source.Command

-- What the method of a resource calls, one in the arguments of the other.
def storingCalls : List String := ["piperenv.SetResourceParameter(", "filepath.Join("]

theorem inOrder_storingCalls (indentation : Nat) (arguments : String) :
    InOrder storingCalls (line indentation ("err := " ++ ("piperenv.SetResourceParameter(" ++
      ("path, resourceName, " ++ ("filepath.Join(" ++ arguments))))) := by
  have hinner : InOrder ["filepath.Join("] ("path, resourceName, " ++
      ("filepath.Join(" ++ arguments)) := InOrder.single _ _ _
  have houter : InOrder ["piperenv.SetResourceParameter("]
      ("err := " ++ "piperenv.SetResourceParameter(") := (InOrder.self _).prepend _
  rw [line, ← @String.append_assoc "err := "]
  exact ((houter.append hinner).prepend _).extend _

theorem Environment.inOrder_storing {env : Environment} {text : String}
    (h : render .empty Source.Environment.storing env.record = .ok text) :
    InOrder storingCalls text := by
  have hcall : r#"err := piperenv.SetResourceParameter(path, resourceName, "# ++
      r#"filepath.Join(param.category, param.name), param.value)"# =
      "err := " ++ ("piperenv.SetResourceParameter(" ++ ("path, resourceName, " ++
        ("filepath.Join(" ++ "param.category, param.name), param.value)"))) := by
    simp
  refine inOrder_of_mem h ?_ (List.mem_of_getElem? (i := 5) rfl)
  refine InOrder.join_of_mem ?_ (List.mem_of_getElem? (i := 4) rfl)
  rw [hcall]
  exact inOrder_storingCalls 2 _

theorem Metric.inOrder_storing {metric : Metric} {text : String}
    (h : render .empty Source.Metric.storing metric.record = .ok text) :
    InOrder storingCalls text := by
  have hcall : r#"err := piperenv.SetResourceParameter(path, resourceName, filepath.Join("# ++
      r#"metric.measurement, fmt.Sprintf("%vs", metric.valType), metric.name), metric.value)"# =
      "err := " ++ ("piperenv.SetResourceParameter(" ++ ("path, resourceName, " ++
        ("filepath.Join(" ++ (r#"metric.measurement, fmt.Sprintf("%vs", metric.valType), "# ++
          "metric.name), metric.value)")))) := by
    simp
  refine inOrder_of_mem h ?_ (List.mem_of_getElem? (i := 5) rfl)
  refine InOrder.join_of_mem ?_ (List.mem_of_getElem? (i := 4) rfl)
  rw [hcall]
  exact inOrder_storingCalls 2 _

theorem Resource.inOrder_storingCalls {stepName : String} {resource : Resource} {output : Output}
    (h : resource.Builds stepName output) : InOrder storingCalls output.definition := by
  cases h with
  | environment _ hdefinition =>
      obtain ⟨storing, hstoring, heq⟩ := Environment.exists_definition_eq _ hdefinition
      exact heq ▸ ((Environment.inOrder_storing hstoring).prepend _).prepend _
  | metric _ hdefinition =>
      obtain ⟨storing, hstoring, heq⟩ := Metric.exists_definition_eq _ hdefinition
      exact heq ▸ ((Metric.inOrder_storing hstoring).prepend _).prepend _

-- `body` is all that comes after the imports.
structure Source.Command.ImportsMatch (step : Step) (a : Assembly) (body text : String) : Prop where
  block : text = header ++ (a.importBlock ++ body)
  once : (a.imports.map Import.path).Nodup
  os_iff : { path := "os" } ∈ a.imports ↔ ∃ p ∈ a.parameters, p.IsLookedUp
  flags : InOrder (a.parameters.map fun p => p.flag.text) body
  lookedUp_iff : (∃ p ∈ a.parameters, p.IsLookedUp) ↔
    ∃ p, step.parameters.find? (fun q => q.name = p.name) = some p ∧ p.kind = "string" ∧
      p.default = none
  filepath_iff : { path := "path/filepath" } ∈ a.imports ↔ a.outputs ≠ []
  piperenv_iff : { path := "github.com/SAP/jenkins-library/pkg/piperenv" } ∈ a.imports ↔
    a.outputs ≠ []
  outputs_iff : a.outputs ≠ [] ↔
    ∃ r ∈ step.resources, r.kind = "piperEnvironment" ∨ r.kind = "influx"
  definitions : InOrder (a.outputs.map Output.definition) body
  stores : ∀ o ∈ a.outputs, InOrder storingCalls o.definition
  shared_iff : Import.shared a.exportPrefix ∈ a.imports ↔ a.exportPrefix ≠ ""
  qualified_iff : a.qualifier = a.exportPrefix ++ "." ↔ a.exportPrefix ≠ ""
  unqualified_iff : a.qualifier = "" ↔ a.exportPrefix = ""
  generalConfig : Qualifies a "GeneralConfig" (6 + a.outputs.length) text
  prepareConfig : Qualifies a "PrepareConfig" 1 text

section File

variable (h : step.assemble exportPrefix = .ok a)

include h

theorem Step.exists_isLookedUp_iff :
    (∃ p ∈ a.parameters, p.IsLookedUp) ↔
      ∃ p, step.parameters.find? (fun q => q.name = p.name) = some p ∧ p.kind = "string" ∧
        p.default = none := by
  obtain ⟨_, hdeclared, _, _, _⟩ := assemble_ok_iff.mp h
  obtain ⟨hparameters, htyped⟩ := TypedParameter.mapM_ok hdeclared
  have hfirst := (Assembly.agrees_of_typed htyped).first_iff
  rw [hparameters] at hfirst
  have htag : ∀ p ∈ a.parameters, p.type.tag = p.declaration.kind := fun p hp =>
    htyped p (Assembly.mem_declared_of_mem_parameters hp)
  constructor
  · rintro ⟨p, hp, hlooked⟩
    obtain ⟨htype, hdefault⟩ := TypedParameter.isLookedUp_iff.mp hlooked
    refine ⟨p.declaration, (hfirst _).mp (List.mem_map_of_mem hp), ?_, hdefault⟩
    rw [← htag p hp, htype, ParameterType.tag]
  · rintro ⟨p, hfind, hkind, hdefault⟩
    obtain ⟨typed, hp, rfl⟩ := List.mem_map.mp ((hfirst p).mpr hfind)
    have htype := ParameterType.tag_eq_string_iff.mp ((htag typed hp).trans hkind)
    exact ⟨typed, hp, TypedParameter.isLookedUp_iff.mpr ⟨htype, hdefault⟩⟩

theorem Step.outputs_ne_nil_iff :
    a.outputs ≠ [] ↔ ∃ r ∈ step.resources, r.kind = "piperEnvironment" ∨ r.kind = "influx" := by
  have hlength : a.outputs.length = step.built.length := (outputs_of_assemble h).length_eq.symm
  rw [← List.length_pos_iff, hlength, List.length_pos_iff, built, ne_eq, List.filter_eq_nil_iff]
  simp only [Resource.isBuilt_iff]
  push Not
  rfl

-- What is imported is what is used.
theorem Step.imports_match :
    ∃ text body, SourceFile.command.content a = .ok text ∧ a.exportPrefix = exportPrefix.getD "" ∧
      ImportsMatch step a body text := by
  obtain ⟨_, _, _, _, hshared⟩ := assemble_ok_iff.mp h
  obtain ⟨text, htext, hsections⟩ := exists_sections a
  have hfill : fillAll .step template (Scope.ofRecord a.toValue) = .ok text :=
    Template.fill_ok_iff.mp htext
  have hflags : InOrder (a.parameters.map fun p => p.flag.text)
      (a.interface.flagsText a.step.name a.flagsName) := by
    have hlines : InOrder (a.parameters.map fun p => p.flag.text)
        (String.join (a.parameters.map fun p => p.flag.text)) := InOrder.join_self _
    unfold Interface.flagsText Assembly.interface
    simp only [List.map_map, Function.comp_def]
    exact (((hlines.prepend _).extend _).extend _).extend _
  cases hsections with
  | @parts head middle tail hhead _ _ =>
      rw [render_imports, Except.ok.injEq] at hhead
      subst hhead
      refine ⟨_, a.interface.optionsText a.step.name ++ (a.definitionsText ++ (middle ++
        (a.interface.flagsText a.step.name a.flagsName ++ tail))), htext, hshared, ?_⟩
      exact {
        block := String.append_assoc
        once := a.nodup_paths_imports
        os_iff := Assembly.os_mem_imports_iff
        flags := (((hflags.extend tail).prepend _).prepend _).prepend _
        lookedUp_iff := exists_isLookedUp_iff h
        filepath_iff := Assembly.filepath_mem_imports_iff
        piperenv_iff := Assembly.piperenv_mem_imports_iff
        outputs_iff := outputs_ne_nil_iff h
        definitions := (a.inOrder_definitionsText.extend _).prepend _
        stores := by
          intro o ho
          obtain ⟨r, _, hr⟩ := exists_builds_of_mem h o ho
          exact Resource.inOrder_storingCalls hr
        shared_iff := Assembly.shared_mem_imports_iff
        qualified_iff := by
          by_cases hempty : a.exportPrefix = "" <;> simp [Assembly.qualifier, hempty]
        unqualified_iff := by
          by_cases hempty : a.exportPrefix = "" <;> simp [Assembly.qualifier, hempty]
        generalConfig := qualifies_generalConfig hfill
        prepareConfig := qualifies_prepareConfig hfill }

end File

-- A parameter that is declared again is not looked up, and a resource that is not built needs no
-- import.
theorem Step.imports_match_skipped :
    let step : Step := {
      name := "deploy"
      parameters := [{ name := "token", kind := "int" }, { name := "token", kind := "string" }]
      resources := [{ name := "report", kind := "file" }] }
    ∃ a text body, step.assemble (some "piper") = .ok a ∧
      SourceFile.command.content a = .ok text ∧ text = header ++ (a.importBlock ++ body) ∧
      { path := "os" } ∉ a.imports ∧ { path := "path/filepath" } ∉ a.imports ∧
      Import.shared "piper" ∈ a.imports ∧ Between "" "PrepareConfig" ["piper."] text := by
  intro step
  have hok : (step.assemble (some "piper")).toOption.isSome = true := by decide +kernel
  have hlooked : ¬∃ p, step.parameters.find? (fun q => q.name = p.name) = some p ∧
      p.kind = "string" ∧ p.default = none := by
    rintro ⟨p, hfind, hkind, _⟩
    have hmem := List.mem_of_find?_eq_some hfind
    simp only [step, List.mem_cons, List.not_mem_nil, or_false] at hmem
    obtain rfl | rfl := hmem
    · simp at hkind
    · simp [step] at hfind
  have hbuilt : ¬∃ r ∈ step.resources, r.kind = "piperEnvironment" ∨ r.kind = "influx" := by
    decide +kernel
  rcases h : step.assemble (some "piper") with failure | a
  · simp [h, Except.toOption] at hok
  · obtain ⟨text, body, htext, hshared, hmatch⟩ := Step.imports_match h
    rw [Option.getD_some] at hshared
    have hqualifier : a.qualifier = "piper." := by simp [Assembly.qualifier, hshared]
    refine ⟨a, text, body, rfl, htext, hmatch.block, ?_, ?_, ?_, ?_⟩
    · exact fun hos => hlooked (hmatch.lookedUp_iff.mp (hmatch.os_iff.mp hos))
    · exact fun hfilepath => hbuilt (hmatch.outputs_iff.mp (hmatch.filepath_iff.mp hfilepath))
    · exact hshared ▸ hmatch.shared_iff.mpr (by simp [hshared])
    · exact hqualifier ▸ hmatch.prepareConfig.between

end StepCommand
