import StepCommand.Proofs.Assembly

namespace StepCommand

open Resource (Named)

theorem TypedParameter.exists_mapM_iff {parameters : List Parameter} :
    (∃ typed, parameters.mapM ofParameter = .ok typed) ↔
      ∀ p ∈ parameters, p.isTyped = true := by
  rw [Except.exists_ok_iff]
  simp only [ne_eq, mapM_error_iff]
  cases hfind : parameters.find? fun p => !p.isTyped with
  | none => simpa using hfind
  | some p =>
      have hmem := List.mem_of_find?_eq_some hfind
      have htyped : p.isTyped = false := by simpa using List.find?_some hfind
      simp only [Option.some.injEq, exists_eq_left', forall_eq, false_iff]
      intro hall
      rw [hall p hmem] at htyped
      cases htyped

theorem Output.exists_ofResources_iff {stepName : String} {resources : List Resource} :
    (∃ outputs, ofResources stepName resources = .ok outputs) ↔
      ∀ r ∈ resources, r.isSound = true := by
  rw [Except.exists_ok_iff]
  simp only [ne_eq, ofResources_error_iff]
  cases hfind : resources.find? fun r => !r.isSound with
  | none => simpa using hfind
  | some r =>
      have hmem := List.mem_of_find?_eq_some hfind
      have hsound : r.isSound = false := by simpa using List.find?_some hfind
      cases hcheck : Resource.checkNames r.name r.checkedNames with
      | ok _ =>
          rw [Resource.isSound_iff.mpr hcheck] at hsound
          cases hsound
      | error failure =>
          simp only [Option.some.injEq, exists_eq_left', hcheck, Except.error.injEq, forall_eq',
            false_iff]
          intro hall
          rw [hall r hmem] at hsound
          cases hsound

-- A step has a fault, and none that comes before it.
inductive Step.FirstFault (step : Step) : Failure → Prop where
  | name (hname : Name.isIdentifier step.name = false) :
      FirstFault step (.invalidStepName step.name)
  | parameter {p : Parameter} (hname : Name.isIdentifier step.name = true)
      (hp : step.parameters.find? (fun p => !p.isTyped) = some p) :
      FirstFault step (.unknownParameterType p.name p.kind)
  | resource {r : Resource} {n : Named} (hname : Name.isIdentifier step.name = true)
      (hp : ∀ p ∈ step.parameters, p.isTyped = true)
      (hr : step.resources.find? (fun r => !r.isSound) = some r)
      (hn : r.checkedNames.find? (fun n => !n.isSound) = some n) :
      FirstFault step (.malformedResource r.name n.reason)

-- A step is made ready unless it has a fault, and then its first fault is the failure.
theorem Step.assemble_first_fault (step : Step) (exportPrefix : Option String) :
    (∀ failure, step.assemble exportPrefix = .error failure ↔ step.FirstFault failure) ∧
    ((∃ a, step.assemble exportPrefix = .ok a) ↔
      Name.isIdentifier step.name = true ∧ (∀ p ∈ step.parameters, p.isTyped = true) ∧
        ∀ r ∈ step.resources, ∀ n ∈ r.checkedNames, Name.isIdentifier n.name = true) := by
  constructor
  · intro failure
    rw [assemble_error_iff, TypedParameter.exists_mapM_iff]
    constructor
    · rintro (⟨hname, rfl⟩ | ⟨hname, hfail⟩ | ⟨hname, hp, hfail⟩)
      · exact .name hname
      · obtain ⟨p, hp, rfl⟩ := TypedParameter.mapM_error_iff.mp hfail
        exact .parameter hname hp
      · obtain ⟨r, hr, hcheck⟩ := Output.ofResources_error_iff.mp hfail
        obtain ⟨n, hn, rfl⟩ := Resource.checkNames_error_iff.mp hcheck
        exact .resource hname hp hr hn
    · intro h
      cases h with
      | name hname => exact .inl ⟨hname, rfl⟩
      | parameter hname hp =>
          exact .inr (.inl ⟨hname, TypedParameter.mapM_error_iff.mpr ⟨_, hp, rfl⟩⟩)
      | resource hname hp hr hn =>
          exact .inr (.inr ⟨hname, hp, Output.ofResources_error_iff.mpr
            ⟨_, hr, Resource.checkNames_error_iff.mpr ⟨_, hn, rfl⟩⟩⟩)
  · constructor
    · rintro ⟨a, ha⟩
      obtain ⟨hname, hdeclared, houtputs, _⟩ := assemble_ok_iff.mp ha
      have hsound := Output.exists_ofResources_iff.mp ⟨_, houtputs⟩
      exact ⟨hname, TypedParameter.exists_mapM_iff.mp ⟨_, hdeclared⟩, fun r hr =>
        List.all_eq_true.mp (hsound r hr)⟩
    · rintro ⟨hname, hp, hr⟩
      obtain ⟨declared, hdeclared⟩ := TypedParameter.exists_mapM_iff.mpr hp
      have hsound : ∀ r ∈ step.resources, r.isSound = true := fun r hmem =>
        List.all_eq_true.mpr (hr r hmem)
      obtain ⟨outputs, houtputs⟩ : ∃ outputs, Output.ofResources step.name step.resources =
          .ok outputs := Output.exists_ofResources_iff.mpr hsound
      exact ⟨⟨step, exportPrefix.getD "", declared, outputs⟩,
        assemble_ok_iff.mpr ⟨hname, hdeclared, houtputs, rfl, rfl⟩⟩

end StepCommand
