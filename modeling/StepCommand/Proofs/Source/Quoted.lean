import StepCommand.Proofs.Resource.Stored
import StepCommand.Proofs.Source.Command

namespace StepCommand

open Template
open Text (Between)

-- What is written only if there is something to write.
def present (s : String) : List String := if s = "" then [] else [s]

def NamedValue.quoted (n : NamedValue) : List String := [n.name, n.value]

def Condition.quoted (c : Condition) : List String :=
  c.reference :: c.params.flatMap NamedValue.quoted

def Container.quoted (c : Container) : List String :=
  present c.name ++ (present c.image ++ (c.env.flatMap NamedValue.quoted ++
    (present c.workingDir ++ (c.options.flatMap NamedValue.quoted ++
      c.conditions.flatMap Condition.quoted))))

def Reference.quoted (r : Reference) : List String :=
  r.name :: (present (r.param.getD "") ++ (r.paths ++ present (r.kind.getD "")))

def Parameter.quoted (p : Parameter) : List String :=
  p.name :: (p.references.flatMap Reference.quoted ++ (p.scope ++
    p.kind :: p.aliases.map Alias.name))

def Resource.Entry.quoted (e : Resource.Entry) : List String :=
  e.name :: (e.fields.map Member.name ++ e.tags.map Member.name)

def Resource.quoted (r : Resource) : List String :=
  r.name :: r.kind :: r.entries.flatMap Resource.Entry.quoted

-- The variable of the environment that a flag is looked up in.
def Parameter.looksUp (p : Parameter) : List String :=
  if p.kind = "string" ∧ p.default.isNone then ["PIPER_" ++ p.name] else []

def Parameter.flagged (p : Parameter) : List String :=
  p.name :: (p.looksUp ++ [p.description])

namespace Step

variable (s : Step)

def introduced : List String := s.name :: s.description :: s.built.map Resource.name

-- Of parameters with the same name the first one is registered.
def flagged : List String :=
  (uniqueBy Parameter.name s.parameters).flatMap Parameter.flagged ++
    (s.parameters.filter Parameter.mandatory).map Parameter.name

def described : List String :=
  s.name :: (s.aliases.map Alias.name ++ s.description :: (s.parameters.flatMap Parameter.quoted ++
    (s.containers.flatMap Container.quoted ++ (s.sidecars.flatMap Container.quoted ++
      s.resources.flatMap Resource.quoted))))

def quoted : List String :=
  s.built.flatMap Resource.stored ++ (s.introduced ++ (s.flagged ++ s.described))

end Step

namespace Source.Command

def constructorPlaces : Template := [
  field "step_name", field "short", forEach "output_resources" [field "name"]]

def flagPlaces : Template := [
  forEach "parameters" [field "name", field "description"],
  forEach "declared_parameters" [when "mandatory" [field "name"]]]

def namedValuePlaces : Template := [field "name", field "value"]

def referencePlaces : Template := [
  field "name", when "param" [field "param"], when "paths" [forEach "paths" [item]],
  when "type" [field "type"]]

def parameterPlaces : Template := [
  field "name", forEach "resource_ref" referencePlaces, forEach "scope" [item], field "type",
  forEach "aliases" [field "name"]]

def conditionPlaces : Template := [field "conditionRef", forEach "params" namedValuePlaces]

def containerPlaces : Template := [
  when "name" [field "name"], when "image" [field "image"],
  when "env" [forEach "env" namedValuePlaces], when "workingDir" [field "workingDir"],
  when "options" [forEach "options" namedValuePlaces],
  when "conditions" [forEach "conditions" conditionPlaces]]

def entryPlaces : Template := [
  field "name", when "fields" [forEach "fields" [field "name"]],
  when "tags" [forEach "tags" [field "name"]]]

def resourcePlaces : Template := [
  field "name", field "type", when "params" [forEach "params" entryPlaces]]

def accessorPlaces : Template := [
  field "step_name", forEach "aliases" [field "name"], field "short",
  forEach "declared_parameters" parameterPlaces,
  when "containers" [forEach "containers" containerPlaces],
  when "sidecars" [forEach "sidecars" containerPlaces],
  when "outputs" [forEach "outputs" resourcePlaces]]

section

set_option maxRecDepth 4000

theorem placesBetween_constructor :
    placesBetween "\"" "\"" constructor = constructorPlaces := by rfl

theorem placesBetween_accessor :
    placesBetween "\"" "\"" accessor = accessorPlaces := by rfl

theorem placesBetween_template :
    placesBetween "\"" "\"" template = constructorPlaces ++ (flagPlaces ++ accessorPlaces) := by
  rfl

end

section Places

variable {scope : Scope} {name : String} (position : List (String × Value))

theorem texts_present {s : String} (hname : Table.step.helper? name = none)
    (hvalue : scope.inner.value.field? name = some (.text s)) :
    (when name [field name]).texts .step scope = present s := by
  rw [texts_when hvalue, textsOf_singleton, texts_field hname hvalue]
  by_cases hs : s = "" <;> simp [present, Template.isTrue, hs]

theorem texts_presentOption {s : Option String} (hname : Table.step.helper? name = none)
    (hvalue : scope.inner.value.field? name = some (Value.ofOption s)) :
    (when name [field name]).texts .step scope = present (s.getD "") := by
  cases s with
  | none =>
      rw [texts_when hvalue]
      rfl
  | some s => exact texts_present hname hvalue

-- A list of texts, each of which stands in a place of its own.
theorem texts_forEach_item {texts : List String}
    (hvalue : scope.inner.value.field? name = some (Value.ofTexts texts)) :
    (forEach name [item]).texts .step scope = texts := by
  have hall : (forEach name [item]).texts .step scope = texts.flatMap fun s => [s] :=
    texts_forEach hvalue fun s _ position => textsOf_singleton.trans (texts_item rfl rfl)
  rw [hall, List.flatMap_singleton']

theorem texts_forEach_name {α : Type} {toValue : α → Value} {key : α → String} {xs : List α}
    (hvalue : scope.inner.value.field? name = some (.list (xs.map toValue)))
    (hkey : ∀ x, (toValue x).field? "name" = some (.text (key x))) :
    (forEach name [field "name"]).texts .step scope = xs.map key := by
  rw [List.map_eq_flatMap]
  exact texts_forEach hvalue fun x _ position =>
    textsOf_singleton.trans (texts_field rfl (hkey x))

theorem textsOf_namedValue (n : NamedValue) :
    textsOf .step namedValuePlaces (scope.enter ⟨n.toValue, position⟩) = n.quoted := by
  have hname : (field "name").texts .step (scope.enter ⟨n.toValue, position⟩) = [n.name] :=
    texts_field rfl rfl
  have hvalue : (field "value").texts .step (scope.enter ⟨n.toValue, position⟩) = [n.value] :=
    texts_field rfl rfl
  simp only [namedValuePlaces, textsOf_cons, textsOf_nil, hname, hvalue]
  rfl

theorem textsOf_condition (c : Condition) :
    textsOf .step conditionPlaces (scope.enter ⟨c.toValue, position⟩) = c.quoted := by
  have hreference : (field "conditionRef").texts .step (scope.enter ⟨c.toValue, position⟩) =
      [c.reference] := texts_field rfl rfl
  have hparams : (forEach "params" namedValuePlaces).texts .step
      (scope.enter ⟨c.toValue, position⟩) = c.params.flatMap NamedValue.quoted :=
    texts_forEach rfl fun n _ position => textsOf_namedValue position n
  simp only [conditionPlaces, textsOf_cons, textsOf_nil, hreference, hparams, List.append_nil]
  rfl

theorem textsOf_container (c : Container) :
    textsOf .step containerPlaces (scope.enter ⟨c.toValue, position⟩) = c.quoted := by
  have hname : (when "name" [field "name"]).texts .step (scope.enter ⟨c.toValue, position⟩) =
      present c.name := texts_present rfl rfl
  have himage : (when "image" [field "image"]).texts .step (scope.enter ⟨c.toValue, position⟩) =
      present c.image := texts_present rfl rfl
  have henv : (when "env" [forEach "env" namedValuePlaces]).texts .step
      (scope.enter ⟨c.toValue, position⟩) = c.env.flatMap NamedValue.quoted :=
    texts_whenEach rfl fun n _ position => textsOf_namedValue position n
  have hdirectory : (when "workingDir" [field "workingDir"]).texts .step
      (scope.enter ⟨c.toValue, position⟩) = present c.workingDir := texts_present rfl rfl
  have hoptions : (when "options" [forEach "options" namedValuePlaces]).texts .step
      (scope.enter ⟨c.toValue, position⟩) = c.options.flatMap NamedValue.quoted :=
    texts_whenEach rfl fun n _ position => textsOf_namedValue position n
  have hconditions : (when "conditions" [forEach "conditions" conditionPlaces]).texts .step
      (scope.enter ⟨c.toValue, position⟩) = c.conditions.flatMap Condition.quoted :=
    texts_whenEach rfl fun c _ position => textsOf_condition position c
  simp only [containerPlaces, textsOf_cons, textsOf_nil, hname, himage, henv, hdirectory, hoptions,
    hconditions, List.append_nil]
  rfl

theorem textsOf_reference (r : Reference) :
    textsOf .step referencePlaces (scope.enter ⟨r.toValue, position⟩) = r.quoted := by
  have hname : (field "name").texts .step (scope.enter ⟨r.toValue, position⟩) = [r.name] :=
    texts_field rfl rfl
  have hparam : (when "param" [field "param"]).texts .step (scope.enter ⟨r.toValue, position⟩) =
      present (r.param.getD "") := texts_presentOption rfl rfl
  have hpaths : (when "paths" [forEach "paths" [item]]).texts .step
      (scope.enter ⟨r.toValue, position⟩) = r.paths := by
    rw [← List.flatMap_singleton' r.paths]
    exact texts_whenEach rfl fun s _ position => textsOf_singleton.trans (texts_item rfl rfl)
  have hkind : (when "type" [field "type"]).texts .step (scope.enter ⟨r.toValue, position⟩) =
      present (r.kind.getD "") := texts_presentOption rfl rfl
  simp only [referencePlaces, textsOf_cons, textsOf_nil, hname, hparam, hpaths, hkind,
    List.append_nil]
  rfl

theorem textsOf_parameter {p : TypedParameter} (h : p.type.tag = p.declaration.kind) :
    textsOf .step parameterPlaces (scope.enter ⟨p.toValue, position⟩) = p.declaration.quoted := by
  have hname : (field "name").texts .step (scope.enter ⟨p.toValue, position⟩) =
      [p.declaration.name] := texts_field rfl rfl
  have hreferences : (forEach "resource_ref" referencePlaces).texts .step
      (scope.enter ⟨p.toValue, position⟩) = p.declaration.references.flatMap Reference.quoted :=
    texts_forEach rfl fun r _ position => textsOf_reference position r
  have hscope : (forEach "scope" [item]).texts .step (scope.enter ⟨p.toValue, position⟩) =
      p.declaration.scope := texts_forEach_item rfl
  have htype : (field "type").texts .step (scope.enter ⟨p.toValue, position⟩) =
      [p.type.tag] := texts_field rfl rfl
  have haliases : (forEach "aliases" [field "name"]).texts .step
      (scope.enter ⟨p.toValue, position⟩) = p.declaration.aliases.map Alias.name :=
    texts_forEach_name rfl fun _ => rfl
  simp only [parameterPlaces, textsOf_cons, textsOf_nil, hname, hreferences, hscope, htype,
    haliases, List.append_nil, h]
  rfl

theorem textsOf_entry (e : Resource.Entry) :
    textsOf .step entryPlaces (scope.enter ⟨e.toValue, position⟩) = e.quoted := by
  have hname : (field "name").texts .step (scope.enter ⟨e.toValue, position⟩) = [e.name] :=
    texts_field rfl rfl
  have hmembers : ∀ (name : String) (members : List Member),
      e.toValue.field? name = some (.list (members.map Member.toValue)) →
      (when name [forEach name [field "name"]]).texts .step (scope.enter ⟨e.toValue, position⟩) =
        members.map Member.name := by
    intro name members hvalue
    rw [List.map_eq_flatMap]
    exact texts_whenEach hvalue fun m _ position => textsOf_singleton.trans (texts_field rfl rfl)
  have hfields := hmembers "fields" e.fields rfl
  have htags := hmembers "tags" e.tags rfl
  simp only [entryPlaces, textsOf_cons, textsOf_nil, hname, hfields, htags, List.append_nil]
  rfl

theorem textsOf_resource (r : Resource) :
    textsOf .step resourcePlaces (scope.enter ⟨r.toValue, position⟩) = r.quoted := by
  have hname : (field "name").texts .step (scope.enter ⟨r.toValue, position⟩) = [r.name] :=
    texts_field rfl rfl
  have hkind : (field "type").texts .step (scope.enter ⟨r.toValue, position⟩) = [r.kind] :=
    texts_field rfl rfl
  have hentries : (when "params" [forEach "params" entryPlaces]).texts .step
      (scope.enter ⟨r.toValue, position⟩) = r.entries.flatMap Resource.Entry.quoted :=
    texts_whenEach rfl fun e _ position => textsOf_entry position e
  simp only [resourcePlaces, textsOf_cons, textsOf_nil, hname, hkind, hentries, List.append_nil]
  rfl

theorem textsOf_constructorPlaces (a : Assembly) :
    textsOf .step constructorPlaces (Scope.ofRecord a.toValue) =
      a.step.name :: a.step.description :: a.outputs.map Output.name := by
  have hstep : (field "step_name").texts .step (Scope.ofRecord a.toValue) = [a.step.name] :=
    texts_field rfl rfl
  have hshort : (field "short").texts .step (Scope.ofRecord a.toValue) = [a.step.description] :=
    texts_field rfl rfl
  have houtputs : (forEach "output_resources" [field "name"]).texts .step
      (Scope.ofRecord a.toValue) = a.outputs.map Output.name := texts_forEach_name rfl fun _ => rfl
  simp only [constructorPlaces, textsOf_cons, textsOf_nil, hstep, hshort, houtputs, List.append_nil]
  rfl

theorem textsOf_flagPlaces (a : Assembly) :
    textsOf .step flagPlaces (Scope.ofRecord a.toValue) =
      (a.parameters.flatMap fun p => [p.name, p.declaration.description]) ++
        (a.declared.filter fun p => p.declaration.mandatory).map TypedParameter.name := by
  have hflags : (forEach "parameters" [field "name", field "description"]).texts .step
      (Scope.ofRecord a.toValue) =
      a.parameters.flatMap fun p => [p.name, p.declaration.description] := by
    refine texts_forEach rfl fun p _ position => ?_
    have hname : (field "name").texts .step ((Scope.ofRecord a.toValue).enter
        ⟨p.toValue, position⟩) = [p.name] := texts_field rfl rfl
    have hdescription : (field "description").texts .step ((Scope.ofRecord a.toValue).enter
        ⟨p.toValue, position⟩) = [p.declaration.description] := texts_field rfl rfl
    simp only [textsOf_cons, textsOf_nil, hname, hdescription]
    rfl
  have hrequired : (forEach "declared_parameters" [when "mandatory" [field "name"]]).texts .step
      (Scope.ofRecord a.toValue) =
      a.declared.flatMap fun p => if p.declaration.mandatory then [p.name] else [] := by
    refine texts_forEach rfl fun p _ position => ?_
    have hmandatory : ((Scope.ofRecord a.toValue).enter ⟨p.toValue, position⟩).inner.value.field?
        "mandatory" = some (.bool p.declaration.mandatory) := rfl
    rw [textsOf_singleton, texts_when hmandatory, textsOf_singleton,
      texts_field (s := p.name) rfl rfl]
    rfl
  have hfilter : (a.declared.flatMap fun p => if p.declaration.mandatory then [p.name] else []) =
      (a.declared.filter fun p => p.declaration.mandatory).map TypedParameter.name := by
    induction a.declared with
    | nil => rfl
    | cons p rest ih => cases hp : p.declaration.mandatory <;> simp [hp, ih]
  simp only [flagPlaces, textsOf_cons, textsOf_nil, hflags, hrequired, hfilter, List.append_nil]

theorem textsOf_accessorPlaces {a : Assembly}
    (h : ∀ p ∈ a.declared, p.type.tag = p.declaration.kind) :
    textsOf .step accessorPlaces (Scope.ofRecord a.toValue) =
      { a.step with parameters := a.declared.map TypedParameter.declaration }.described := by
  have hstep : (field "step_name").texts .step (Scope.ofRecord a.toValue) = [a.step.name] :=
    texts_field rfl rfl
  have haliases : (forEach "aliases" [field "name"]).texts .step (Scope.ofRecord a.toValue) =
      a.step.aliases.map Alias.name := texts_forEach_name rfl fun _ => rfl
  have hshort : (field "short").texts .step (Scope.ofRecord a.toValue) = [a.step.description] :=
    texts_field rfl rfl
  have hparameters : (forEach "declared_parameters" parameterPlaces).texts .step
      (Scope.ofRecord a.toValue) = a.declared.flatMap fun p => p.declaration.quoted :=
    texts_forEach rfl fun p hp position => textsOf_parameter position (h p hp)
  have hcontainers : (when "containers" [forEach "containers" containerPlaces]).texts .step
      (Scope.ofRecord a.toValue) = a.step.containers.flatMap Container.quoted :=
    texts_whenEach rfl fun c _ position => textsOf_container position c
  have hsidecars : (when "sidecars" [forEach "sidecars" containerPlaces]).texts .step
      (Scope.ofRecord a.toValue) = a.step.sidecars.flatMap Container.quoted :=
    texts_whenEach rfl fun c _ position => textsOf_container position c
  have hresources : (when "outputs" [forEach "outputs" resourcePlaces]).texts .step
      (Scope.ofRecord a.toValue) = a.step.resources.flatMap Resource.quoted :=
    texts_whenEach rfl fun r _ position => textsOf_resource position r
  simp only [accessorPlaces, textsOf_cons, textsOf_nil, hstep, haliases, hshort, hparameters,
    hcontainers, hsidecars, hresources, List.append_nil]
  unfold Step.described
  rw [List.flatMap_map]
  rfl

end Places

end Source.Command

end StepCommand
