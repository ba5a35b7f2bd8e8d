import StepCommand.Step.Json

namespace StepCommand

namespace Value

variable {α β : Type} {read : Value → Option β} {entries : List (String × Value)} {name : String}
  {absent : Option β} {y : β}

theorem asOption?_ofOption (s : Option String) : asOption? (ofOption s) = some s := by
  cases s <;> rfl

theorem asList?_map {write : α → Value} {f : α → β} (h : ∀ x, read (write x) = some (f x))
    (xs : List α) : asList? read (.list (xs.map write)) = some (xs.map f) := by
  rw [asList?]
  induction xs with
  | nil => rfl
  | cons x rest ih => simp [h, ih]

theorem asList?_map_self {write : β → Value} (h : ∀ y, read (write y) = some y) (ys : List β) :
    asList? read (.list (ys.map write)) = some ys := by
  rw [asList?_map (f := id) h, List.map_id]

theorem asList?_ofTexts (texts : List String) : asList? asText? (ofTexts texts) = some texts := by
  have hread : ∀ s, asText? (text s) = some s := fun _ => rfl
  exact asList?_map_self hread texts

theorem exists_of_mem_asList? {v : Value} {ys : List β} (h : asList? read v = some ys) :
    ∀ y ∈ ys, ∃ item, read item = some y := by
  cases v with
  | list items =>
      rw [asList?] at h
      induction items generalizing ys with
      | nil =>
          cases h
          simp
      | cons item rest ih =>
          simp only [List.mapM_cons, Option.bind_eq_bind, Option.bind_eq_some_iff, Option.pure_def,
            Option.some.injEq] at h
          obtain ⟨first, hfirst, others, hrest, rfl⟩ := h
          simp only [List.mem_cons]
          rintro y (rfl | hy)
          · exact ⟨item, hfirst⟩
          · exact ih hrest y hy
  | _ => cases h

-- A field is read from the record, or it is absent.
theorem fieldOr_eq_some (h : fieldOr entries name absent read = some y) :
    absent = some y ∨ ∃ v, read v = some y := by
  unfold fieldOr at h
  split at h
  next v _ => exact .inr ⟨v, h⟩
  next => exact .inl h

end Value

open Value (asOption?_ofOption asList?_map asList?_map_self asList?_ofTexts fields? fieldOr)

theorem Alias.ofValue?_toValue (a : Alias) : ofValue? a.toValue = some a := by
  simp [ofValue?, toValue, fields?, fieldOr, List.lookup_cons, Value.asText?, Value.asBool?]

theorem Reference.ofValue?_toValue (r : Reference) : ofValue? r.toValue = some r := by
  simp [ofValue?, toValue, fields?, fieldOr, List.lookup_cons, Value.asText?, asOption?_ofOption,
    asList?_ofTexts]

theorem NamedValue.ofValue?_toValue (n : NamedValue) : ofValue? n.toValue = some n := by
  simp [ofValue?, toValue, fields?, fieldOr, List.lookup_cons, Value.asText?]

theorem Condition.ofValue?_toValue (c : Condition) : ofValue? c.toValue = some c := by
  simp [ofValue?, toValue, fields?, fieldOr, List.lookup_cons, Value.asText?,
    asList?_map_self NamedValue.ofValue?_toValue]

theorem Container.ofValue?_toValue (c : Container) : ofValue? c.toValue = some c := by
  simp [ofValue?, toValue, fields?, fieldOr, List.lookup_cons, Value.asText?,
    asList?_map_self NamedValue.ofValue?_toValue, asList?_map_self Condition.ofValue?_toValue]

theorem Member.ofValue?_toValue (m : Member) : ofValue? m.toValue = some m := by
  simp [ofValue?, toValue, fields?, fieldOr, List.lookup_cons, Value.asText?, asOption?_ofOption]

theorem Resource.Entry.ofValue?_toValue (e : Resource.Entry) : ofValue? e.toValue = some e := by
  simp [ofValue?, toValue, fields?, fieldOr, List.lookup_cons, Value.asText?, asOption?_ofOption,
    asList?_map_self Member.ofValue?_toValue]

theorem Resource.ofValue?_toValue (r : Resource) : ofValue? r.toValue = some r := by
  simp [ofValue?, toValue, fields?, fieldOr, List.lookup_cons, Value.asText?,
    asList?_map_self Resource.Entry.ofValue?_toValue]

namespace Parameter

-- A declared null is the same as no default once it has been written.
def readBack (p : Parameter) : Parameter := { p with default := p.default.bind defaultOf }

theorem defaultOf_getD (default : Option Value) :
    defaultOf (default.getD .null) = default.bind defaultOf := by
  cases default <;> rfl

theorem ofValue?_toValue (p : Parameter) : ofValue? p.toValue = some p.readBack := by
  simp [ofValue?, toValue, readBack, fields?, fieldOr, List.lookup_cons, Value.asText?,
    Value.asBool?, asList?_ofTexts, asList?_map_self Alias.ofValue?_toValue,
    asList?_map_self Reference.ofValue?_toValue, defaultOf_getD]

theorem defaultOf_eq_some_iff {v value : Value} :
    defaultOf v = some value ↔ v = value ∧ value ≠ .null := by
  cases v <;> cases value <;> simp [defaultOf]

theorem readBack_eq_iff {p : Parameter} : p.readBack = p ↔ p.default ≠ some .null := by
  rcases p with ⟨_, _, _, _, _, _, _, _, default⟩
  cases default with
  | none => simp [readBack]
  | some value => simp [readBack, defaultOf_eq_some_iff]

theorem default_of_ofValue? {v : Value} {p : Parameter} (h : ofValue? v = some p) :
    p.default ≠ some .null := by
  simp only [ofValue?, Option.bind_eq_bind, Option.bind_eq_some_iff, Option.pure_def,
    Option.some.injEq] at h
  obtain ⟨_, _, _, _, _, _, _, _, _, _, _, _, _, _, _, _, _, _, default, hdefault, rfl⟩ := h
  rcases Value.fieldOr_eq_some hdefault with habsent | ⟨value, hvalue⟩
  · simp [← Option.some.inj habsent]
  · rw [← Option.some.inj hvalue]
    simp [defaultOf_eq_some_iff]

end Parameter

namespace Step

def readBack (s : Step) : Step := { s with parameters := s.parameters.map Parameter.readBack }

theorem metadataOf?_toValue (s : Step) :
    metadataOf? (.object [("name", .text s.name), ("aliases", .list (s.aliases.map Alias.toValue)),
      ("description", .text s.description), ("longDescription", .text s.longDescription)]) =
      some { name := s.name, aliases := s.aliases, description := s.description,
             longDescription := s.longDescription } := by
  simp [metadataOf?, fields?, fieldOr, List.lookup_cons, Value.asText?,
    asList?_map_self Alias.ofValue?_toValue]

theorem parametersOf?_toValue (parameters : List Parameter) :
    parametersOf? (.object [("params", .list (parameters.map Parameter.toValue))]) =
      some (parameters.map Parameter.readBack) := by
  simp [parametersOf?, fields?, fieldOr, asList?_map Parameter.ofValue?_toValue]

theorem resourcesOf?_toValue (resources : List Resource) :
    resourcesOf? (.object [("resources", .list (resources.map Resource.toValue))]) =
      some resources := by
  simp [resourcesOf?, fields?, fieldOr, asList?_map_self Resource.ofValue?_toValue]

theorem ofValue?_toValue (s : Step) : ofValue? s.toValue = some s.readBack := by
  simp [ofValue?, toValue, readBack, specOf?, fields?, fieldOr, List.lookup_cons,
    metadataOf?_toValue, parametersOf?_toValue, resourcesOf?_toValue,
    asList?_map_self Container.ofValue?_toValue]

theorem readBack_eq_iff {s : Step} :
    s.readBack = s ↔ ∀ p ∈ s.parameters, p.default ≠ some .null := by
  have hparameters : s.readBack = s ↔ s.parameters.map Parameter.readBack = s.parameters := by
    rcases s with ⟨_, _, _, _, _, _, _, _⟩
    simp [readBack]
  have hmap := List.map_inj_left (f := Parameter.readBack) (g := id) (l := s.parameters)
  rw [List.map_id] at hmap
  simp only [hparameters, hmap, id_eq, Parameter.readBack_eq_iff]

theorem parameters_of_metadataOf? {v : Value} {s : Step} (h : metadataOf? v = some s) :
    s.parameters = [] := by
  simp only [metadataOf?, Option.bind_eq_bind, Option.bind_eq_some_iff, Option.pure_def,
    Option.some.injEq] at h
  obtain ⟨_, _, _, _, _, _, _, _, _, _, rfl⟩ := h
  rfl

theorem default_of_parametersOf? {v : Value} {parameters : List Parameter}
    (h : parametersOf? v = some parameters) : ∀ p ∈ parameters, p.default ≠ some .null := by
  obtain ⟨entries, _, hparams⟩ := Option.bind_eq_some_iff.mp h
  rcases Value.fieldOr_eq_some hparams with habsent | ⟨list, hlist⟩
  · simp [← Option.some.inj habsent]
  · intro p hp
    obtain ⟨item, hitem⟩ := Value.exists_of_mem_asList? hlist p hp
    exact Parameter.default_of_ofValue? hitem

theorem default_of_specOf? {v : Value} {metadata s : Step} (h : metadata.specOf? v = some s) :
    ∀ p ∈ s.parameters, p.default ≠ some .null := by
  simp only [specOf?, Option.bind_eq_bind, Option.bind_eq_some_iff, Option.pure_def,
    Option.some.injEq] at h
  obtain ⟨_, _, parameters, hinputs, _, _, _, _, _, _, rfl⟩ := h
  rcases Value.fieldOr_eq_some hinputs with habsent | ⟨inputs, hinputs⟩
  · simp [← Option.some.inj habsent]
  · exact default_of_parametersOf? hinputs

-- Parameters come from the specification, where a default of null is none.
theorem default_of_ofValue? {v : Value} {s : Step} (h : ofValue? v = some s) :
    ∀ p ∈ s.parameters, p.default ≠ some .null := by
  simp only [ofValue?, Option.bind_eq_bind, Option.bind_eq_some_iff] at h
  obtain ⟨_, _, metadata, hmetadata, hspec⟩ := h
  rcases Value.fieldOr_eq_some hspec with habsent | ⟨spec, hspec⟩
  · rcases Value.fieldOr_eq_some hmetadata with hnone | ⟨document, hmetadata⟩
    · cases hnone
    · rw [← Option.some.inj habsent, parameters_of_metadataOf? hmetadata]
      simp
  · exact default_of_specOf? hspec

-- A step is read as it was written unless it has a default of null, and no step that was read has
-- one.
theorem ofValue?_inverts_toValue :
    (∀ s : Step, ofValue? s.toValue = some s ↔ ∀ p ∈ s.parameters, p.default ≠ some .null) ∧
      ∀ v s, ofValue? v = some s →
        (∀ p ∈ s.parameters, p.default ≠ some .null) ∧ ofValue? s.toValue = ofValue? v := by
  have hiff : ∀ s : Step,
      ofValue? s.toValue = some s ↔ ∀ p ∈ s.parameters, p.default ≠ some .null := by
    intro s
    rw [ofValue?_toValue, Option.some.injEq, readBack_eq_iff]
  refine ⟨hiff, fun v s h => ?_⟩
  have hdefault := default_of_ofValue? h
  exact ⟨hdefault, by rw [h, (hiff s).mpr hdefault]⟩

-- A null inside a default is kept; a default that is null as a whole is read as none.
theorem ofValue?_inverts_toValue_nested :
    let step : Step := {
      name := "deploy"
      aliases := [{ name := "ship", deprecated := true }]
      parameters := [
        { name := "targets"
          kind := "[]string"
          mandatory := true
          scope := ["STEPS", "STAGES"]
          aliases := [{ name := "target" }]
          references := [
            { name := "env", param := some "url" },
            { name := "vault", paths := ["a", "b"], kind := some "secret" }]
          default := some (.list [.null, .object [("eu", .int 1)]]) },
        { name := "dryRun", kind := "bool" }]
      containers := [{
        image := "maven"
        env := [{ name := "HOME", value := "/root" }]
        conditions := [{ reference := "branch", params := [{ name := "name" }] }] }]
      sidecars := [{ name := "db", options := [{ name := "--rm" }] }]
      resources := [{
        name := "times"
        kind := "influx"
        entries := [{
          name := "build", fields := [{ name := "seconds", kind := some "int" }],
          tags := [{ name := "host" }] }] }] }
    let document : Value := .object [
      ("metadata", .object [("name", .text "deploy")]),
      ("spec", .object [("inputs", .object [("params", .list [
        .object [("name", .text "retries"), ("default", .null)]])])])]
    let read : Step := { name := "deploy", parameters := [{ name := "retries" }] }
    ((∀ p ∈ step.parameters, p.default ≠ some .null) ∧ ofValue? step.toValue = some step) ∧
      ofValue? document = some read ∧ (∀ p ∈ read.parameters, p.default ≠ some .null) ∧
        ofValue? read.toValue = some read := by
  intro step document read
  obtain ⟨hiff, hread⟩ := ofValue?_inverts_toValue
  have hdefault : ∀ p ∈ step.parameters, p.default ≠ some .null := by simp [step]
  have hdocument : ofValue? document = some read := rfl
  obtain ⟨hnone, hagain⟩ := hread document read hdocument
  exact ⟨⟨hdefault, (hiff step).mpr hdefault⟩, hdocument, hnone, hagain.trans hdocument⟩

end Step

end StepCommand
