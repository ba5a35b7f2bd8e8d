import StepCommand.Proofs.Assembly
import StepCommand.Proofs.Template.Part

namespace StepCommand

open Template (Argument Given Helper Scope Table)

variable {step : Step} {exportPrefix : Option String} {a : Assembly}

namespace TypedParameter

theorem mapM_uniqueBy {parameters : List Parameter} {declared : List TypedParameter}
    (h : parameters.mapM ofParameter = .ok declared) :
    (uniqueBy Parameter.name parameters).mapM ofParameter = .ok (uniqueBy name declared) := by
  rw [Except.mapM_ok_iff] at h ⊢
  refine forall₂_uniqueFrom (fun p typed htyped => ?_) h
  rw [name, (ofParameter_ok_iff.mp htyped).1]

theorem nameOf_toValue (p : TypedParameter) : Template.nameOf p.toValue = some p.name := rfl

-- The function for templates looks at the names in the records.
theorem uniqueBy_map_toValue (declared : List TypedParameter) :
    uniqueBy Template.nameOf (declared.map toValue) = (uniqueBy name declared).map toValue := by
  have hkey : uniqueBy (fun p => some (name p)) declared = uniqueBy name declared :=
    uniqueFrom_injective (fun _ _ => Option.some.inj) name [] declared
  rw [← map_uniqueBy nameOf_toValue, hkey]

end TypedParameter

-- `parameters` are those of the step, in the order in which they are declared.
structure Assembly.Deduplicates (a : Assembly) (parameters : List Parameter) : Prop where
  typed : parameters.mapM TypedParameter.ofParameter = .ok a.declared
  kept : a.parameters = uniqueBy TypedParameter.name a.declared
  typed_kept : (uniqueBy Parameter.name parameters).mapM TypedParameter.ofParameter =
    .ok a.parameters
  record : a.toValue.field? "parameters" = some (.list (a.parameters.map TypedParameter.toValue))
  call : ∀ table ∈ [Table.step, .implementation],
    (Argument.call "uniqueName" [.path (.field "declared_parameters")]).eval table
      (Scope.ofRecord a.toValue) = .ok ⟨none, a.toValue.field? "parameters"⟩
  mem_secrets_iff : ∀ name, name ∈ a.secrets ↔
    ∃ p, parameters.find? (fun p => p.name = name) = some p ∧ p.secret = true
  nodup_secrets : a.secrets.Nodup
  ordered_secrets : a.secrets.Pairwise fun m n =>
    parameters.findIdx (fun p => p.name = m) < parameters.findIdx fun p => p.name = n

namespace Assembly

theorem eval_uniqueName (a : Assembly) {table : Table}
    (h : table.helper? "uniqueName" = some .unique) :
    (Argument.call "uniqueName" [.path (.field "declared_parameters")]).eval table
      (Scope.ofRecord a.toValue) =
      .ok ⟨none, some (.list (a.parameters.map TypedParameter.toValue))⟩ := by
  have hfield : (Argument.path (.field "declared_parameters")).eval table
      (Scope.ofRecord a.toValue) = .ok ⟨some "declared_parameters",
        some (.list (a.declared.map TypedParameter.toValue))⟩ := Template.eval_field rfl
  have hunique : Helper.unique.apply [⟨some "declared_parameters",
      some (.list (a.declared.map TypedParameter.toValue))⟩] =
      .ok (.list (a.parameters.map TypedParameter.toValue)) := by
    rw [parameters, ← TypedParameter.uniqueBy_map_toValue]
    rfl
  rw [Argument.eval, Argument.evalAll, hfield]
  simp only [Argument.evalAll, Template.call, h, Except.ok_bind, pure, Except.pure, hunique]

theorem secrets_eq (a : Assembly) :
    a.secrets = ((uniqueBy Parameter.name (a.declared.map TypedParameter.declaration)).filter
      Parameter.secret).map Parameter.name := by
  rw [← map_declaration_parameters, List.filter_map, List.map_map]
  rfl

end Assembly

-- It does not matter whether parameters are given their types before the later declarations are
-- left out or after it, and the function for templates leaves out the same ones.
theorem Step.deduplicates_of_assemble (h : step.assemble exportPrefix = .ok a) :
    a.Deduplicates step.parameters := by
  obtain ⟨_, htyped, _, _, _⟩ := assemble_ok_iff.mp h
  have hsecrets : a.secrets = ((uniqueBy Parameter.name step.parameters).filter
      Parameter.secret).map Parameter.name := by
    rw [a.secrets_eq, (TypedParameter.mapM_ok htyped).1]
  have hsub : a.secrets.Sublist ((uniqueBy Parameter.name step.parameters).map Parameter.name) := by
    rw [hsecrets]
    exact List.filter_sublist.map _
  exact {
    typed := htyped
    kept := rfl
    typed_kept := TypedParameter.mapM_uniqueBy htyped
    record := rfl
    call := by
      intro table htable
      refine a.eval_uniqueName ?_
      simp only [List.mem_cons, List.not_mem_nil, or_false] at htable
      rcases htable with rfl | rfl <;> rfl
    mem_secrets_iff := by
      intro name
      rw [hsecrets, List.mem_map]
      constructor
      · rintro ⟨p, hp, rfl⟩
        obtain ⟨hkept, hsecret⟩ := List.mem_filter.mp hp
        exact ⟨p, mem_uniqueBy_iff.mp hkept, hsecret⟩
      · rintro ⟨p, hfind, hsecret⟩
        have hname : p.name = name := by simpa using List.find?_some hfind
        subst hname
        exact ⟨p, List.mem_filter.mpr ⟨mem_uniqueBy_iff.mpr hfind, hsecret⟩, rfl⟩
    nodup_secrets := (nodup_map_uniqueBy Parameter.name step.parameters).sublist hsub
    ordered_secrets := (pairwise_map_uniqueFrom Parameter.name [] step.parameters).sublist hsub }

-- The later declarations have other types, other defaults and other secrecy.
theorem Step.deduplicates_of_assemble_repeated :
    let step : Step := { name := "deploy", parameters := [
      { name := "token", kind := "string", secret := true },
      { name := "retries", kind := "int", default := some (.int 3) },
      { name := "token", kind := "[]string" },
      { name := "retries", kind := "string", secret := true },
      { name := "key", kind := "bool", secret := true }] }
    ∃ a, step.assemble none = .ok a ∧ a.Deduplicates step.parameters ∧
      a.secrets = ["token", "key"] ∧
      a.parameters.map (fun p => (p.name, p.type, p.literal.text)) = [
        ("token", .string, "os.Getenv(\"PIPER_token\")"), ("retries", .int, "3"),
        ("key", .bool, "false")] := by
  intro step
  have hok : ((step.assemble none).toOption.map fun a => (a.secrets,
      a.parameters.map fun p => (p.name, p.type, p.literal.text))) =
      some (["token", "key"], [("token", .string, "os.Getenv(\"PIPER_token\")"),
        ("retries", .int, "3"), ("key", .bool, "false")]) := by
    decide +kernel
  rcases h : step.assemble none with failure | a
  · simp [h, Except.toOption] at hok
  · simp only [h, Except.toOption, Option.map_some, Option.some.injEq, Prod.mk.injEq] at hok
    exact ⟨a, rfl, Step.deduplicates_of_assemble h, hok.1, hok.2⟩

end StepCommand
