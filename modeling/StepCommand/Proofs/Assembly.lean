import StepCommand.Proofs.Resource

namespace StepCommand

open Resource (Named)

variable {failure : Failure} {step : Step} {exportPrefix : Option String} {a : Assembly}

-- The types as a description names them.
def Parameter.tags : List String := ["bool", "int", "string", "[]string"]

def Parameter.isTyped (p : Parameter) : Bool := p.kind ∈ tags

theorem ParameterType.ofTag?_eq_none_iff {tag : String} :
    ofTag? tag = none ↔ tag ∉ Parameter.tags := by
  rw [ofTag?, List.find?_eq_none]
  simp only [ParameterType.tag, Parameter.tags, List.mem_cons, not_or, eq_comm]
  simp

theorem ParameterType.tag_of_ofTag? {tag : String} {type : ParameterType}
    (h : ofTag? tag = some type) : type.tag = tag := by
  simpa using List.find?_some h

theorem ParameterType.ofTag?_tag (type : ParameterType) : ofTag? type.tag = some type := by
  cases type <;> rfl

theorem ParameterType.tag_eq_string_iff {type : ParameterType} :
    type.tag = "string" ↔ type = .string := by
  cases type <;> simp [tag]

theorem TypedParameter.ofParameter_ok_iff {p : Parameter} {typed : TypedParameter} :
    ofParameter p = .ok typed ↔
      typed.declaration = p ∧ ParameterType.ofTag? p.kind = some typed.type := by
  rcases typed with ⟨declaration, type⟩
  cases h : ParameterType.ofTag? p.kind with
  | none => simp [ofParameter, h]
  | some kind => simp [ofParameter, h, eq_comm]

theorem TypedParameter.ofParameter_error_iff {p : Parameter} :
    ofParameter p = .error failure ↔
      p.isTyped = false ∧ failure = .unknownParameterType p.name p.kind := by
  have hnone : ParameterType.ofTag? p.kind = none ↔ p.kind ∉ Parameter.tags :=
    ParameterType.ofTag?_eq_none_iff
  cases h : ParameterType.ofTag? p.kind with
  | none => simp [ofParameter, h, Parameter.isTyped, hnone.mp h, eq_comm]
  | some kind =>
      have htyped : p.kind ∈ Parameter.tags := by
        by_contra hmem
        rw [hnone.mpr hmem] at h
        cases h
      simp [ofParameter, h, Parameter.isTyped, htyped]

theorem TypedParameter.mapM_error_iff {parameters : List Parameter} :
    parameters.mapM ofParameter = .error failure ↔
      ∃ p, parameters.find? (fun p => !p.isTyped) = some p ∧
        failure = .unknownParameterType p.name p.kind := by
  have hfails : ∀ p : Parameter, (!p.isTyped) = true ↔ ∃ e, ofParameter p = .error e := by
    simp [ofParameter_error_iff]
  rw [Except.mapM_error_iff hfails]
  constructor
  · rintro ⟨p, hp, herror⟩
    exact ⟨p, hp, (ofParameter_error_iff.mp herror).2⟩
  · rintro ⟨p, hp, rfl⟩
    have htyped : p.isTyped = false := by simpa using List.find?_some hp
    exact ⟨p, hp, ofParameter_error_iff.mpr ⟨htyped, rfl⟩⟩

-- Each parameter has the type that it is declared with.
theorem TypedParameter.mapM_ok {parameters : List Parameter} {typed : List TypedParameter}
    (h : parameters.mapM ofParameter = .ok typed) :
    typed.map declaration = parameters ∧ ∀ p ∈ typed, p.type.tag = p.declaration.kind := by
  rw [Except.mapM_ok_iff] at h
  induction h with
  | nil => simp
  | cons hfirst _ ih =>
      obtain ⟨rfl, htype⟩ := ofParameter_ok_iff.mp hfirst
      refine ⟨by rw [List.map_cons, ih.1], ?_⟩
      intro p hp
      rcases List.mem_cons.mp hp with rfl | hp
      · exact ParameterType.tag_of_ofTag? htype
      · exact ih.2 p hp

-- What stops a step.
inductive Step.Rejects (step : Step) : Failure → Prop where
  | name (h : Name.isIdentifier step.name = false) : Rejects step (.invalidStepName step.name)
  | parameter {p : Parameter} (hp : p ∈ step.parameters)
      (h : ParameterType.ofTag? p.kind = none) :
      Rejects step (.unknownParameterType p.name p.kind)
  | resource {resource : Resource} {n : Named} (hr : resource ∈ step.resources)
      (h : Name.isIdentifier n.name = false) :
      Rejects step (.malformedResource resource.name n.reason)

theorem Step.assemble_eq (step : Step) (exportPrefix : Option String) :
    step.assemble exportPrefix =
      if Name.isIdentifier step.name then
        (step.parameters.mapM TypedParameter.ofParameter).bind fun declared =>
          (Output.ofResources step.name step.resources).bind fun outputs =>
            .ok ⟨step, exportPrefix.getD "", declared, outputs⟩
      else .error (.invalidStepName step.name) := by
  unfold assemble
  cases Name.isIdentifier step.name <;> rfl

-- Steps that differ only in what is taken over as it stands are made ready alike.
theorem Step.assemble_map {other : Step} {otherPrefix : Option String} {f : Assembly → Assembly}
    (hname : other.name = step.name) (hparameters : other.parameters = step.parameters)
    (houtputs : Output.ofResources other.name other.resources =
      Output.ofResources step.name step.resources)
    (hf : ∀ declared outputs, f ⟨step, exportPrefix.getD "", declared, outputs⟩ =
      ⟨other, otherPrefix.getD "", declared, outputs⟩) :
    other.assemble otherPrefix = (step.assemble exportPrefix).map f := by
  rw [assemble_eq, assemble_eq, houtputs, hname, hparameters]
  cases Name.isIdentifier step.name with
  | false => rfl
  | true =>
      cases step.parameters.mapM TypedParameter.ofParameter with
      | error cause => rfl
      | ok declared =>
          cases Output.ofResources step.name step.resources with
          | error cause => rfl
          | ok outputs => exact congrArg Except.ok (hf declared outputs).symm

theorem Step.assemble_ok_iff :
    step.assemble exportPrefix = .ok a ↔
      Name.isIdentifier step.name = true ∧
        step.parameters.mapM TypedParameter.ofParameter = .ok a.declared ∧
        Output.ofResources step.name step.resources = .ok a.outputs ∧
        a.step = step ∧ a.exportPrefix = exportPrefix.getD "" := by
  rcases a with ⟨of, qualifying, typed, built⟩
  rw [assemble_eq]
  cases Name.isIdentifier step.name with
  | false => simp
  | true =>
      cases step.parameters.mapM TypedParameter.ofParameter with
      | error cause => simp [Except.bind]
      | ok declared =>
          cases Output.ofResources step.name step.resources with
          | error cause => simp [Except.bind]
          | ok outputs =>
              simp only [Except.bind, if_true, Except.ok.injEq, Assembly.mk.injEq, true_and,
                eq_comm]
              tauto

-- The name comes first, then the parameters, then the resources.
theorem Step.assemble_error_iff :
    step.assemble exportPrefix = .error failure ↔
      (Name.isIdentifier step.name = false ∧ failure = .invalidStepName step.name) ∨
      (Name.isIdentifier step.name = true ∧
        step.parameters.mapM TypedParameter.ofParameter = .error failure) ∨
      (Name.isIdentifier step.name = true ∧
        (∃ declared, step.parameters.mapM TypedParameter.ofParameter = .ok declared) ∧
        Output.ofResources step.name step.resources = .error failure) := by
  rw [assemble_eq]
  cases Name.isIdentifier step.name with
  | false => simp [eq_comm]
  | true =>
      cases step.parameters.mapM TypedParameter.ofParameter with
      | error cause => simp [Except.bind]
      | ok declared => cases Output.ofResources step.name step.resources <;> simp [Except.bind]

theorem Step.rejects_of_assemble (h : step.assemble exportPrefix = .error failure) :
    step.Rejects failure := by
  obtain ⟨hn, rfl⟩ | ⟨_, hp⟩ | ⟨_, _, ho⟩ := assemble_error_iff.mp h
  · exact .name hn
  · obtain ⟨p, hfind, rfl⟩ := TypedParameter.mapM_error_iff.mp hp
    have htyped : p.kind ∉ Parameter.tags := by
      simpa [Parameter.isTyped] using List.find?_some hfind
    exact .parameter (List.mem_of_find?_eq_some hfind) (ParameterType.ofTag?_eq_none_iff.mpr htyped)
  · obtain ⟨r, hr, hcheck⟩ := Output.ofResources_error_iff.mp ho
    obtain ⟨n, hn, rfl⟩ := Resource.checkNames_error_iff.mp hcheck
    have hname : Name.isIdentifier n.name = false := by
      simpa [Named.isSound] using List.find?_some hn
    exact .resource (List.mem_of_find?_eq_some hr) hname

theorem Step.step_of_assemble (h : step.assemble exportPrefix = .ok a) :
    a.step = step ∧ Name.isIdentifier step.name = true := by
  obtain ⟨hn, _, _, hstep, _⟩ := assemble_ok_iff.mp h
  exact ⟨hstep, hn⟩

-- The parameters of an assembly are the first declarations of their names.
theorem Assembly.map_declaration_parameters (a : Assembly) :
    a.parameters.map TypedParameter.declaration =
      uniqueBy Parameter.name (a.declared.map TypedParameter.declaration) :=
  map_uniqueBy (fun _ => rfl) a.declared

end StepCommand
