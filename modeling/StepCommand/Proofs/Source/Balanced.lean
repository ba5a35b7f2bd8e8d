import StepCommand.Proofs.Generator.Sources
import StepCommand.Proofs.Literal.Balanced
import StepCommand.Proofs.Resource.Balanced

namespace StepCommand

open Text (IsBalanced)

variable {step : Step} {exportPrefix : Option String} {a : Assembly}

-- Each section closes what it opens, and so does what is repeated or left out in it.
theorem Source.Command.template_isBalanced : template.IsBalanced := by
  have himports : imports.IsBalanced := by decide +kernel
  have hoptions : options.IsBalanced := by decide +kernel
  have hdefinitions : definitions.IsBalanced := by decide +kernel
  have hconstructor : constructor.IsBalanced := by decide +kernel
  have hflags : flags.IsBalanced := by decide +kernel
  have haccessor : accessor.IsBalanced := by decide +kernel
  exact himports.append hoptions |>.append hdefinitions |>.append hconstructor
    |>.append hflags |>.append haccessor

theorem Source.CommandTest.template_isBalanced : template.IsBalanced := by decide +kernel

theorem Source.Implementation.template_isBalanced : template.IsBalanced := by
  have hheader : header.IsBalanced := by decide +kernel
  have hutilities : utilities.IsBalanced := by decide +kernel
  have hbundle : bundle.IsBalanced := by decide +kernel
  have hconstructor : bundleConstructor.IsBalanced := by decide +kernel
  have hstep : stepFunction.IsBalanced := by decide +kernel
  have hrun : runFunction.IsBalanced := by decide +kernel
  exact hheader.append hutilities |>.append hbundle |>.append hconstructor
    |>.append hstep |>.append hrun

theorem Source.ImplementationTest.template_isBalanced : template.IsBalanced := by decide +kernel

theorem SourceFile.forall_isBalanced : ∀ file ∈ all, file.template.IsBalanced := by
  simp only [all, List.forall_mem_cons]
  exact ⟨Source.Command.template_isBalanced, Source.CommandTest.template_isBalanced,
    Source.Implementation.template_isBalanced, Source.ImplementationTest.template_isBalanced,
    fun _ hf => absurd hf List.not_mem_nil⟩

theorem Source.Registry.template_isBalanced : template.IsBalanced := by decide +kernel

theorem Parameter.isBalanced_toValue (p : Parameter) :
    p.toValue.IsBalanced ↔ IsBalanced p.name ∧ IsBalanced p.kind ∧ IsBalanced p.description ∧
      (Value.ofTexts p.scope).IsBalanced ∧ (∀ a ∈ p.aliases, a.toValue.IsBalanced) ∧
      (∀ r ∈ p.references, r.toValue.IsBalanced) ∧ ∀ value ∈ p.default, value.IsBalanced := by
  cases hdefault : p.default <;> simp +decide [toValue, hdefault]

theorem Step.isBalanced_toValue (s : Step) :
    s.toValue.IsBalanced ↔ (IsBalanced s.name ∧ (∀ a ∈ s.aliases, a.toValue.IsBalanced) ∧
        IsBalanced s.description ∧ IsBalanced s.longDescription) ∧
      (∀ p ∈ s.parameters, p.toValue.IsBalanced) ∧ (∀ c ∈ s.containers, c.toValue.IsBalanced) ∧
      (∀ c ∈ s.sidecars, c.toValue.IsBalanced) ∧ ∀ r ∈ s.resources, r.toValue.IsBalanced := by
  simp +decide [toValue]

theorem TypedParameter.isBalanced_toValue {p : TypedParameter}
    (h : p.declaration.toValue.IsBalanced) : p.toValue.IsBalanced := by
  obtain ⟨hname, _, hdescription, hscope, haliases, hreferences, hdefault⟩ :=
    (Parameter.isBalanced_toValue _).mp h
  have htag : IsBalanced p.type.tag := by cases p.type <;> decide
  have hsetter : IsBalanced p.type.setter := by cases p.type <;> decide
  have hliteral : IsBalanced p.literal.text := Literal.isBalanced_ofDefault hname hdefault
  have hdeclared : (p.declaration.default.getD .null).IsBalanced := by
    cases hvalue : p.declaration.default with
    | none => exact Value.isBalanced_null
    | some value => exact hdefault value hvalue
  simpa +decide [toValue, hname, TypedParameter.name, htag, hsetter, hliteral, hdescription, hscope,
    hdeclared] using ⟨haliases, hreferences⟩

namespace Assembly

theorem isBalanced_qualifier (h : IsBalanced a.exportPrefix) : IsBalanced a.qualifier := by
  have hdot : IsBalanced "." := by decide
  unfold qualifier
  split
  · exact Text.isBalanced_empty
  · exact h.append hdot

theorem isBalanced_toValue (hstep : a.step.toValue.IsBalanced) (hexport : IsBalanced a.exportPrefix)
    (hdeclared : ∀ p ∈ a.declared, p.declaration.toValue.IsBalanced)
    (houtputs : ∀ o ∈ a.outputs, o.toValue.IsBalanced) : a.toValue.IsBalanced := by
  obtain ⟨⟨hname, haliases, hshort, hlong⟩, _, hcontainers, hsidecars, hresources⟩ :=
    (Step.isBalanced_toValue _).mp hstep
  have htitle : IsBalanced a.title := Name.isBalanced_title hname
  have hcommand : IsBalanced a.commandName := htitle.append (by decide)
  have hcreate : IsBalanced "create" := by decide
  have hadd : IsBalanced "add" := by decide
  have hvariable : IsBalanced a.commandVariable := (hcreate.append htitle).append (by decide)
  have hflags : IsBalanced a.flagsName := (hadd.append htitle).append (by decide)
  have hqualifier : IsBalanced a.qualifier := isBalanced_qualifier hexport
  have hkept : ∀ p ∈ a.parameters, p ∈ a.declared :=
    fun p hp => List.mem_of_find?_eq_some (mem_uniqueBy_iff.mp hp)
  have hparameters : ∀ p ∈ a.declared, p.toValue.IsBalanced :=
    fun p hp => TypedParameter.isBalanced_toValue (hdeclared p hp)
  have hsecrets : (Value.ofTexts a.secrets).IsBalanced := by
    refine (Value.isBalanced_ofTexts _).mpr fun name hn => ?_
    obtain ⟨p, hp, rfl⟩ := List.mem_map.mp hn
    have hp' := hdeclared p (hkept p (List.mem_filter.mp hp).1)
    exact ((Parameter.isBalanced_toValue _).mp hp').1
  have hlists : (∀ p ∈ a.parameters, p.toValue.IsBalanced) ∧
      (∀ p ∈ a.declared, p.toValue.IsBalanced) ∧
      (∀ other ∈ a.step.aliases, other.toValue.IsBalanced) ∧
      (∀ c ∈ a.step.containers, c.toValue.IsBalanced) ∧
      (∀ c ∈ a.step.sidecars, c.toValue.IsBalanced) ∧
      (∀ r ∈ a.step.resources, r.toValue.IsBalanced) ∧
      ∀ o ∈ a.outputs, o.toValue.IsBalanced :=
    ⟨fun p hp => hparameters p (hkept p hp), hparameters, haliases, hcontainers, hsidecars,
      hresources, houtputs⟩
  simpa +decide [toValue, hname, hshort, hlong, hexport, hcommand, hvariable, hflags, hqualifier,
    hsecrets] using hlists

end Assembly

theorem Step.isBalanced_of_assemble (hstep : step.toValue.IsBalanced)
    (hexport : ∀ p ∈ exportPrefix, IsBalanced p) (h : step.assemble exportPrefix = .ok a) :
    a.toValue.IsBalanced := by
  obtain ⟨⟨hname, _⟩, hparameters, _, _, hresources⟩ := (isBalanced_toValue step).mp hstep
  obtain ⟨_, hdeclared, _, hsame, hprefixes⟩ := assemble_ok_iff.mp h
  refine Assembly.isBalanced_toValue (hsame ▸ hstep) ?_ ?_ ?_
  · rw [hprefixes]
    cases exportPrefix with
    | none => exact Text.isBalanced_empty
    | some p => exact hexport p rfl
  · intro p hp
    have hdeclarations := (TypedParameter.mapM_ok hdeclared).1
    exact hparameters _ (hdeclarations ▸ List.mem_map_of_mem hp)
  · intro o ho
    obtain ⟨r, hr, hbuilds⟩ := exists_builds_of_mem h o ho
    exact hbuilds.isBalanced_toValue hname (hresources r (List.mem_filter.mp hr).1)

theorem SourceFile.exists_isBalanced {file : SourceFile} (hfile : file ∈ all)
    (ha : a.toValue.IsBalanced) : ∃ text, file.content a = .ok text ∧ IsBalanced text := by
  obtain ⟨text, ht⟩ := content_ok hfile a
  exact ⟨text, ht, Template.isBalanced_render (forall_isBalanced file hfile) ha
    (Template.fill_ok_iff.mp ht)⟩

theorem Source.Registry.exists_isBalanced {steps : List String}
    (h : ∀ name ∈ steps, Name.isIdentifier name = true) (g : Generator) :
    ∃ artifact, g.registry steps = .ok artifact ∧ IsBalanced artifact.content := by
  have hrecord : (record steps).IsBalanced := by
    simpa +decide [record] using fun name hn => Name.isBalanced_of_isIdentifier (h name hn)
  obtain ⟨text, ht⟩ := Template.fill_of_fits fileName fits (shape_admits steps)
  refine ⟨⟨g.path fileName, text, .overwrite⟩, ?_, ?_⟩
  · rw [Generator.registry, ht]
    rfl
  · exact Template.isBalanced_render template_isBalanced hrecord (Template.fill_ok_iff.mp ht)

-- No text that is put between the brackets of a template disturbs them, and no choice between the
-- parts of a template does.
theorem sources_isBalanced :
    (∀ (step : Step) (exportPrefix : Option String) (a : Assembly), step.toValue.IsBalanced →
      (∀ p ∈ exportPrefix, IsBalanced p) → step.assemble exportPrefix = .ok a →
        ∀ file ∈ SourceFile.all, ∃ text, file.content a = .ok text ∧ IsBalanced text) ∧
    ∀ (g : Generator) (steps : List String), (∀ name ∈ steps, Name.isIdentifier name = true) →
      ∃ artifact, g.registry steps = .ok artifact ∧ IsBalanced artifact.content :=
  ⟨fun _ _ _ hstep hexport h _ hfile =>
      SourceFile.exists_isBalanced hfile (Step.isBalanced_of_assemble hstep hexport h),
    fun g _ h => Source.Registry.exists_isBalanced h g⟩

-- Brackets in descriptions, in names, in a type, and in the texts and keys of a default.
theorem sources_isBalanced_bracketed :
    let tags : Parameter := {
      name := "tags", kind := "[]string", mandatory := true,
      default := some (.list [.text "a[0]", .object [("k\x7b\x7d", .list [.int 1, .text "(/)"])]]) }
    let env : Resource := {
      name := "env(1)", kind := "piperEnvironment",
      entries := [{ name := "git/url" },
        { name := "ids", kind := some "map[string]interface\x7b\x7d" }] }
    let times : Resource := {
      name := "times", kind := "influx",
      entries := [{ name := "run", tags := [{ name := "id" }] }] }
    let step : Step := {
      name := "deploy", description := "Calls f(x) with [y].",
      longDescription := "Reads \x7b(`a`)\x7d, writes [].",
      parameters := [tags, { name := "token(s)", kind := "string", secret := true }],
      containers := [{ name := "node", image := "node:\x7b\x7bversion\x7d\x7d" }],
      resources := [env, times] }
    let g : Generator := ⟨"out", none⟩
    step.toValue.IsBalanced ∧
      (∃ a, step.assemble (some "piper") = .ok a ∧
        ∀ file ∈ SourceFile.all, ∃ text, file.content a = .ok text ∧ IsBalanced text) ∧
      ∃ artifact, g.registry ["build", "deploy"] = .ok artifact ∧ IsBalanced artifact.content := by
  intro tags env times step g
  obtain ⟨hsources, hregistry⟩ := sources_isBalanced
  have hstep : step.toValue.IsBalanced := by decide +kernel
  have hexport : ∀ p ∈ some "piper", IsBalanced p := by
    rintro p ⟨⟩
    decide
  have hnames : ∀ name ∈ ["build", "deploy"], Name.isIdentifier name = true := by decide +kernel
  have hok : (step.assemble (some "piper")).isOk = true := by decide +kernel
  obtain ⟨a, ha⟩ : ∃ a, step.assemble (some "piper") = .ok a := by
    cases h : step.assemble (some "piper") with
    | ok a => exact ⟨a, rfl⟩
    | error failure => simp [h, Except.isOk, Except.toBool] at hok
  exact ⟨hstep, ⟨a, ha, hsources step _ a hstep hexport ha⟩, hregistry g _ hnames⟩

end StepCommand
