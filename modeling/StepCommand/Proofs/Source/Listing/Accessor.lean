import StepCommand.Proofs.Output
import StepCommand.Proofs.Source.Command
import StepCommand.Proofs.Source.Listing
import StepCommand.Proofs.Template.Separated

namespace StepCommand

open Source.Listing
open Template (line)

namespace Source.Command

open Template

variable {scope : Scope} {name : String} (position : List (String × Value))

-- How an attribute is set apart from those before it or after it.
theorem following (t : String) : ", " ++ t = ", " ++ (t ++ "") := by rw [String.append_empty]

theorem trailing (t : String) : t ++ ", " = "" ++ (t ++ ", ") := String.empty_append.symm

theorem fill_string? {o : Option String} {f : String → String}
    {opening closing key before after : String} (hf : ∀ t, f t = opening ++ (t ++ closing))
    (hname : Table.step.helper? name = none)
    (hvalue : scope.inner.value.field? name = some (Value.ofOption o))
    (hbefore : before = opening ++ (key ++ ": \"")) (hafter : after = "\"" ++ closing) :
    (when name [.text before, field name, .text after]).fill .step scope =
      .ok (if o.getD "" = "" then "" else f (key ++ ": " ++ string (o.getD ""))) := by
  have hquote : ": \"" = ": " ++ "\"" := rfl
  rw [fill_when_field hname hvalue, hf, hbefore, hafter, hquote, string]
  simp only [String.append_assoc]

theorem fill_list? {α : Type} {toValue : α → Value} {text : α → String} {xs : List α} {node : Node}
    {f : String → String} {opening closing key type before after : String}
    (hf : ∀ t, f t = opening ++ (t ++ closing))
    (hvalue : scope.inner.value.field? name = some (.list (xs.map toValue)))
    (hnode : node.fill .step scope = .ok (", ".intercalate (xs.map text)))
    (hbefore : before = opening ++ (key ++ ": " ++ type ++ "\x7b "))
    (hafter : after = " \x7d" ++ closing) :
    (when name [.text before, node, .text after]).fill .step scope =
      .ok (if xs = [] then "" else f (key ++ ": " ++ list type (xs.map text))) := by
  rw [fill_when_list hvalue hnode, hf, hbefore, hafter, list]
  simp only [String.append_assoc]

def aliasPart : Template := [
  "\x7bName: \"", field "name", "\", Deprecated: ", field "deprecated", " \x7d"]

def namedValuePart : Template := [
  "\x7bName: \"", field "name", "\", Value: \"", field "value", "\"\x7d"]

def conditionPart : Template := [
  "\x7bConditionRef: \"", field "conditionRef", "\", Params: []config.Param\x7b ",
  namedValues "params", " \x7d \x7d"]

def memberPart : Template := ["\x7b\"name\": \"", field "name", "\"\x7d"]

def referencePart : Template := [
  "\x7bName: \"", field "name", "\"",
  when "param" [", Param: \"", field "param", "\""],
  when "paths" [", Paths: []string\x7b ", quotedItems "paths", " \x7d"],
  when "type" [", Type: \"", field "type", "\""],
  " \x7d"]

theorem fill_aliasPart (a : Alias) :
    fillAll .step aliasPart (scope.enter ⟨a.toValue, position⟩) = .ok a.listing := by
  have hname : (field "name").fill .step (scope.enter ⟨a.toValue, position⟩) = .ok a.name :=
    fill_field rfl rfl
  have hdeprecated : (field "deprecated").fill .step (scope.enter ⟨a.toValue, position⟩) =
      .ok (toString a.deprecated) := fill_bool rfl rfl
  simp only [aliasPart, fillAll_cons, fillAll_nil, fill_text, hname, hdeprecated, Except.ok_bind]
  refine congrArg Except.ok (String.toList_inj.mp ?_)
  simp [Alias.listing, record_eq, join_written_some, join_written_nil, string]

theorem fill_aliases {xs : List Alias}
    (hvalue : scope.inner.value.field? "aliases" = some (.list (xs.map Alias.toValue))) :
    aliases.fill .step scope = .ok (", ".intercalate (xs.map Alias.listing)) :=
  fill_forEach_separated aliasPart hvalue fun a _ position => fill_aliasPart position a

theorem fill_quotedItems {texts : List String}
    (hvalue : scope.inner.value.field? name = some (Value.ofTexts texts)) :
    (quotedItems name).fill .step scope = .ok (", ".intercalate (texts.map string)) := by
  refine fill_forEach_separated ["\"", item, "\""] hvalue fun s _ position => ?_
  have hitem : item.fill .step (scope.enter ⟨.text s, position⟩) = .ok s := fill_item rfl rfl
  simp only [fillAll_cons, fillAll_nil, fill_text, hitem, Except.ok_bind, string,
    String.append_assoc, String.append_empty]

theorem fill_namedValuePart (n : NamedValue) :
    fillAll .step namedValuePart (scope.enter ⟨n.toValue, position⟩) = .ok n.listing := by
  have hname : (field "name").fill .step (scope.enter ⟨n.toValue, position⟩) = .ok n.name :=
    fill_field rfl rfl
  have hvalue : (field "value").fill .step (scope.enter ⟨n.toValue, position⟩) = .ok n.value :=
    fill_field rfl rfl
  simp only [namedValuePart, fillAll_cons, fillAll_nil, fill_text, hname, hvalue, Except.ok_bind]
  refine congrArg Except.ok (String.toList_inj.mp ?_)
  simp [NamedValue.listing, record_eq, join_written_some, join_written_nil, string]

theorem fill_namedValues {xs : List NamedValue}
    (hvalue : scope.inner.value.field? name = some (.list (xs.map NamedValue.toValue))) :
    (namedValues name).fill .step scope = .ok (", ".intercalate (xs.map NamedValue.listing)) :=
  fill_forEach_separated namedValuePart hvalue fun n _ position =>
    fill_namedValuePart position n

theorem fill_conditionPart (c : Condition) :
    fillAll .step conditionPart (scope.enter ⟨c.toValue, position⟩) = .ok c.listing := by
  have hreference : (field "conditionRef").fill .step (scope.enter ⟨c.toValue, position⟩) =
      .ok c.reference := fill_field rfl rfl
  have hparams : (namedValues "params").fill .step (scope.enter ⟨c.toValue, position⟩) =
      .ok (", ".intercalate (c.params.map NamedValue.listing)) := fill_namedValues rfl
  simp only [conditionPart, fillAll_cons, fillAll_nil, fill_text, hreference, hparams,
    Except.ok_bind]
  refine congrArg Except.ok (String.toList_inj.mp ?_)
  simp [Condition.listing, record_eq, join_written_some, join_written_nil, string, list]

theorem fill_conditions {xs : List Condition}
    (hvalue : scope.inner.value.field? "conditions" = some (.list (xs.map Condition.toValue))) :
    conditions.fill .step scope = .ok (", ".intercalate (xs.map Condition.listing)) :=
  fill_forEach_separated conditionPart hvalue fun c _ position =>
    fill_conditionPart position c

theorem fill_memberPart (m : Member) :
    fillAll .step memberPart (scope.enter ⟨m.toValue, position⟩) = .ok m.listing := by
  have hname : (field "name").fill .step (scope.enter ⟨m.toValue, position⟩) = .ok m.name :=
    fill_field rfl rfl
  simp only [memberPart, fillAll_cons, fillAll_nil, fill_text, hname, Except.ok_bind]
  refine congrArg Except.ok (String.toList_inj.mp ?_)
  simp [Member.listing, record_eq, join_written_nil, string]

theorem fill_members {xs : List Member}
    (hvalue : scope.inner.value.field? name = some (.list (xs.map Member.toValue))) :
    (members name).fill .step scope = .ok (", ".intercalate (xs.map Member.listing)) :=
  fill_forEach_separated memberPart hvalue fun m _ position => fill_memberPart position m

theorem fill_referencePart (r : Reference) :
    fillAll .step referencePart (scope.enter ⟨r.toValue, position⟩) = .ok r.listing := by
  have hname : (field "name").fill .step (scope.enter ⟨r.toValue, position⟩) = .ok r.name :=
    fill_field rfl rfl
  have hparam : (when "param" [", Param: \"", field "param", "\""]).fill .step
      (scope.enter ⟨r.toValue, position⟩) = .ok (if r.param.getD "" = "" then "" else
        ", " ++ ("Param" ++ ": " ++ string (r.param.getD ""))) :=
    fill_string? following rfl rfl rfl rfl
  have hpaths : (when "paths" [", Paths: []string\x7b ", quotedItems "paths", " \x7d"]).fill .step
      (scope.enter ⟨r.toValue, position⟩) = .ok (if r.paths = [] then "" else
        ", " ++ ("Paths" ++ ": " ++ list "[]string" (r.paths.map string))) :=
    fill_list? following rfl (fill_quotedItems rfl) rfl rfl
  have hkind : (when "type" [", Type: \"", field "type", "\""]).fill .step
      (scope.enter ⟨r.toValue, position⟩) = .ok (if r.kind.getD "" = "" then "" else
        ", " ++ ("Type" ++ ": " ++ string (r.kind.getD ""))) :=
    fill_string? following rfl rfl rfl rfl
  have hopening : "\x7bName: \"" = "\x7b" ++ ("Name" ++ (": " ++ "\"")) := rfl
  simp only [referencePart, fillAll_cons, fillAll_nil, fill_text, hname, hparam, hpaths, hkind,
    Except.ok_bind]
  simp only [Reference.listing, record_eq, join_written_string?, join_written_list?,
    join_written_nil, List.map_eq_nil_iff, string, hopening, String.append_assoc,
    String.append_empty]

theorem fill_references {xs : List Reference}
    (hvalue : scope.inner.value.field? "resource_ref" = some (.list (xs.map Reference.toValue))) :
    references.fill .step scope = .ok (", ".intercalate (xs.map Reference.listing)) :=
  fill_forEach_separated referencePart hvalue fun r _ position =>
    fill_referencePart position r

def parameterPart : Template := [
  "\t\t\t\t\t\x7b\n",
  "\t\t\t\t\t\tName:        \"", field "name", "\",\n",
  "\t\t\t\t\t\tResourceRef: []config.ResourceReference\x7b ", references, " \x7d,\n",
  "\t\t\t\t\t\tScope:       []string\x7b ", quotedItems "scope", " \x7d,\n",
  "\t\t\t\t\t\tType:        \"", field "type", "\",\n",
  "\t\t\t\t\t\tMandatory:   ", field "mandatory", ",\n",
  "\t\t\t\t\t\tAliases:     []config.Alias\x7b ", aliases, " \x7d,\n",
  "\t\t\t\t\t\x7d,\n"]

theorem fill_parameterPart {p : TypedParameter} (h : p.type.tag = p.declaration.kind) :
    fillAll .step parameterPart (scope.enter ⟨p.toValue, position⟩) =
      .ok p.declaration.listing := by
  have hname : (field "name").fill .step (scope.enter ⟨p.toValue, position⟩) =
      .ok p.declaration.name := fill_field rfl rfl
  have hreferences : references.fill .step (scope.enter ⟨p.toValue, position⟩) =
      .ok (", ".intercalate (p.declaration.references.map Reference.listing)) :=
    fill_references rfl
  have hscope : (quotedItems "scope").fill .step (scope.enter ⟨p.toValue, position⟩) =
      .ok (", ".intercalate (p.declaration.scope.map string)) := fill_quotedItems rfl
  have htype : (field "type").fill .step (scope.enter ⟨p.toValue, position⟩) =
      .ok p.declaration.kind := fill_field rfl (congrArg (some ∘ Value.text) h)
  have hmandatory : (field "mandatory").fill .step (scope.enter ⟨p.toValue, position⟩) =
      .ok (toString p.declaration.mandatory) := fill_bool rfl rfl
  have haliases : aliases.fill .step (scope.enter ⟨p.toValue, position⟩) =
      .ok (", ".intercalate (p.declaration.aliases.map Alias.listing)) := fill_aliases rfl
  simp only [parameterPart, fillAll_cons, fillAll_nil, fill_text, hname, hreferences, hscope, htype,
    hmandatory, haliases, Except.ok_bind]
  refine congrArg Except.ok (String.toList_inj.mp ?_)
  simp [Parameter.listing, line, tabs, string, list]

theorem fill_container (c : Container) :
    fillAll .step container (scope.enter ⟨c.toValue, position⟩) = .ok c.listing := by
  have hname : (when "name" ["Name: \"", field "name", "\", "]).fill .step
      (scope.enter ⟨c.toValue, position⟩) =
      .ok (if c.name = "" then "" else "Name" ++ ": " ++ string c.name ++ ", ") :=
    fill_string? (o := some c.name) trailing rfl rfl rfl rfl
  have himage : (when "image" ["Image: \"", field "image", "\", "]).fill .step
      (scope.enter ⟨c.toValue, position⟩) =
      .ok (if c.image = "" then "" else "Image" ++ ": " ++ string c.image ++ ", ") :=
    fill_string? (o := some c.image) trailing rfl rfl rfl rfl
  have henv : (when "env" ["EnvVars: []config.EnvVar\x7b ", namedValues "env", " \x7d, "]).fill
      .step (scope.enter ⟨c.toValue, position⟩) =
      .ok (if c.env = [] then "" else "EnvVars" ++ ": " ++
        list "[]config.EnvVar" (c.env.map NamedValue.listing) ++ ", ") :=
    fill_list? trailing rfl (fill_namedValues rfl) rfl rfl
  have hdirectory : (when "workingDir" ["WorkingDir: \"", field "workingDir", "\", "]).fill .step
      (scope.enter ⟨c.toValue, position⟩) =
      .ok (if c.workingDir = "" then "" else "WorkingDir" ++ ": " ++ string c.workingDir ++ ", ") :=
    fill_string? (o := some c.workingDir) trailing rfl rfl rfl rfl
  have hoptions : (when "options" ["Options: []config.Option\x7b ", namedValues "options",
      " \x7d, "]).fill .step (scope.enter ⟨c.toValue, position⟩) =
      .ok (if c.options = [] then "" else "Options" ++ ": " ++
        list "[]config.Option" (c.options.map NamedValue.listing) ++ ", ") :=
    fill_list? trailing rfl (fill_namedValues rfl) rfl rfl
  have hconditions : (when "conditions" ["Conditions: []config.Condition\x7b ", conditions,
      " \x7d, "]).fill .step (scope.enter ⟨c.toValue, position⟩) =
      .ok (if c.conditions = [] then "" else "Conditions" ++ ": " ++
        list "[]config.Condition" (c.conditions.map Condition.listing) ++ ", ") :=
    fill_list? trailing rfl (fill_conditions rfl) rfl rfl
  have hopening : "\t\t\t\t\x7b " = tabs 4 ++ "\x7b " := rfl
  have hclosing : " \x7d,\n" = " \x7d," ++ "\n" := rfl
  simp only [container, fillAll_cons, fillAll_nil, fill_text, hname, himage, henv, hdirectory,
    hoptions, hconditions, Except.ok_bind]
  simp only [Container.listing, Container.attributes, join_written_string?, join_written_list?,
    join_written_nil, List.map_eq_nil_iff, line, hopening, hclosing, String.append_assoc,
    String.append_empty]

theorem fill_group? {α : Type} {toValue : α → Value} {text : α → String} {xs : List α}
    {before after : String} (part : Template)
    (hvalue : scope.inner.value.field? name = some (.list (xs.map toValue)))
    (hpart : ∀ x ∈ xs, ∀ position,
      fillAll .step part (scope.enter ⟨toValue x, position⟩) = .ok (text x)) :
    (when name [.text before, forEach name part, .text after]).fill .step scope =
      .ok (group? before (xs.map text) after) := by
  rw [fill_when_list hvalue (fill_forEach hvalue hpart), group?]
  simp only [List.map_eq_nil_iff]

def entryPart : Template := [
  "\t\t\t\t\t\t\t\x7b\"name\": \"", field "name", "\"",
  when "fields" [", \"fields\": []map[string]string\x7b ", members "fields", " \x7d"],
  when "tags" [", \"tags\": []map[string]string\x7b ", members "tags", " \x7d"],
  " \x7d,\n"]

theorem fill_entryPart (e : Resource.Entry) :
    fillAll .step entryPart (scope.enter ⟨e.toValue, position⟩) = .ok e.listing := by
  have hname : (field "name").fill .step (scope.enter ⟨e.toValue, position⟩) = .ok e.name :=
    fill_field rfl rfl
  have hfields : (when "fields" [", \"fields\": []map[string]string\x7b ", members "fields",
      " \x7d"]).fill .step (scope.enter ⟨e.toValue, position⟩) = .ok (if e.fields = [] then "" else
        ", " ++ ("\"fields\"" ++ ": " ++
          list "[]map[string]string" (e.fields.map Member.listing))) :=
    fill_list? following rfl (fill_members rfl) rfl rfl
  have htags : (when "tags" [", \"tags\": []map[string]string\x7b ", members "tags",
      " \x7d"]).fill .step (scope.enter ⟨e.toValue, position⟩) = .ok (if e.tags = [] then "" else
        ", " ++ ("\"tags\"" ++ ": " ++
          list "[]map[string]string" (e.tags.map Member.listing))) :=
    fill_list? following rfl (fill_members rfl) rfl rfl
  have hopening : "\t\t\t\t\t\t\t\x7b\"name\": \"" =
      tabs 7 ++ ("\x7b" ++ ("\"name\"" ++ (": " ++ "\""))) := rfl
  have hclosing : " \x7d,\n" = " \x7d" ++ ("," ++ "\n") := rfl
  simp only [entryPart, fillAll_cons, fillAll_nil, fill_text, hname, hfields, htags, Except.ok_bind]
  simp only [Resource.Entry.listing, record_eq, join_written_list?, join_written_nil,
    List.map_eq_nil_iff, line, string, hopening, hclosing, String.append_assoc,
    String.append_empty]

def resourcePart : Template := [
  "\t\t\t\t\t\x7b\n",
  "\t\t\t\t\t\tName: \"", field "name", "\",\n",
  "\t\t\t\t\t\tType: \"", field "type", "\",\n",
  outputEntries,
  "\t\t\t\t\t\x7d,\n"]

theorem fill_resourcePart (r : Resource) :
    fillAll .step resourcePart (scope.enter ⟨r.toValue, position⟩) = .ok r.listing := by
  have hname : (field "name").fill .step (scope.enter ⟨r.toValue, position⟩) = .ok r.name :=
    fill_field rfl rfl
  have hkind : (field "type").fill .step (scope.enter ⟨r.toValue, position⟩) = .ok r.kind :=
    fill_field rfl rfl
  have hentries : outputEntries.fill .step (scope.enter ⟨r.toValue, position⟩) =
      .ok (group? (line 6 "Parameters: []map[string]interface\x7b\x7d\x7b")
        (r.entries.map Resource.Entry.listing) (line 6 "\x7d,")) :=
    fill_group? entryPart rfl fun e _ position => fill_entryPart position e
  simp only [resourcePart, fillAll_cons, fillAll_nil, fill_text, hname, hkind, hentries,
    Except.ok_bind]
  refine congrArg Except.ok (String.toList_inj.mp ?_)
  simp [Resource.listing, line, tabs, string]

variable {a : Assembly}

theorem fill_accessorHead : fillAll .step accessorHead (Scope.ofRecord a.toValue) =
    .ok (a.step.openingListing ++ line 4 "Parameters: []config.StepParameters\x7b") := by
  have hstep : (field "step_name").fill .step (Scope.ofRecord a.toValue) = .ok a.step.name :=
    fill_field rfl rfl
  have haliases : aliases.fill .step (Scope.ofRecord a.toValue) =
      .ok (", ".intercalate (a.step.aliases.map Alias.listing)) := fill_aliases rfl
  have hshort : (field "short").fill .step (Scope.ofRecord a.toValue) = .ok a.step.description :=
    fill_field rfl rfl
  have hfunction : "Metadata() config.StepData \x7b\n" =
      "Metadata() config.StepData \x7b" ++ "\n" := rfl
  have hname : "\t\t\tName:        \"" = tabs 3 ++ ("Name:        " ++ "\"") := rfl
  have hlist : "\t\t\tAliases:     []config.Alias\x7b " =
      tabs 3 ++ ("Aliases:     " ++ ("[]config.Alias" ++ "\x7b ")) := rfl
  have hdescription : "\t\t\tDescription: \"" = tabs 3 ++ ("Description: " ++ "\"") := rfl
  have hquote : "\",\n" = "\"" ++ ("," ++ "\n") := rfl
  have hclosing : " \x7d,\n" = " \x7d" ++ ("," ++ "\n") := rfl
  simp only [accessorHead, block, fillAll_cons, fillAll_nil, fill_text, hstep, haliases, hshort,
    Except.ok_bind]
  simp only [Step.openingListing, String.join_cons, String.join_nil, line, string, list, hfunction,
    hname, hlist, hdescription, hquote, hclosing, tabs_zero, String.append_assoc,
    String.empty_append, String.append_empty]

theorem fill_parameterList (h : ∀ p ∈ a.declared, p.type.tag = p.declaration.kind) :
    fillAll .step parameterList (Scope.ofRecord a.toValue) =
      .ok (String.join (a.declared.map fun p => p.declaration.listing)) := by
  have hparameters : (forEach "declared_parameters" parameterPart).fill .step
      (Scope.ofRecord a.toValue) =
      .ok (String.join (a.declared.map fun p => p.declaration.listing)) :=
    fill_forEach rfl fun p hp position => fill_parameterPart position (h p hp)
  have heq : parameterList = [forEach "declared_parameters" parameterPart] := rfl
  rw [heq, fillAll_cons, hparameters]
  simp only [fillAll_nil, Except.ok_bind, String.append_empty]

theorem fill_accessorTail : fillAll .step accessorTail (Scope.ofRecord a.toValue) =
    .ok (line 4 "\x7d," ++ line 3 "\x7d," ++
      (Step.containersListing "Containers" a.step.containers ++
        (Step.containersListing "Sidecars" a.step.sidecars ++
          (a.step.outputsListing ++ Step.closingListing)))) := by
  have hcontainers : (containerList "containers" "Containers").fill .step
      (Scope.ofRecord a.toValue) = .ok (Step.containersListing "Containers" a.step.containers) :=
    fill_group? container rfl fun c _ position => fill_container position c
  have hsidecars : (containerList "sidecars" "Sidecars").fill .step (Scope.ofRecord a.toValue) =
      .ok (Step.containersListing "Sidecars" a.step.sidecars) :=
    fill_group? container rfl fun c _ position => fill_container position c
  have houtputs : outputs.fill .step (Scope.ofRecord a.toValue) = .ok a.step.outputsListing :=
    fill_group? resourcePart rfl fun r _ position => fill_resourcePart position r
  simp only [accessorTail, block, fillAll_cons, fillAll_nil, fill_text, hcontainers, hsidecars,
    houtputs, Except.ok_bind, String.append_empty]
  rfl

theorem render_accessor
    (hparameters : a.declared.map TypedParameter.declaration = a.step.parameters)
    (htyped : ∀ p ∈ a.declared, p.type.tag = p.declaration.kind) :
    render .step accessor a.toValue = .ok a.step.listing := by
  have hlist : a.declared.map (fun p => p.declaration.listing) =
      a.step.parameters.map Parameter.listing := by
    rw [← hparameters, List.map_map]
    rfl
  rw [render, accessor]
  simp only [fillAll_append, fill_accessorHead, fill_parameterList htyped, fill_accessorTail, hlist,
    Except.ok_bind]
  simp only [Step.listing, Step.listingWith, Step.parametersListing, String.join_cons,
    String.join_nil, String.append_assoc, String.append_empty]

def beforeAccessor : Template := imports ++ options ++ definitions ++ constructor ++ flags

theorem exists_before_accessor (a : Assembly) :
    ∃ before, render .step beforeAccessor a.toValue = .ok before := by
  have hall := fits
  rw [template, Fits.append_iff] at hall
  exact render_of_fits hall.1 a.shape_admits

end Source.Command

open Source.Command

variable {step : Step} {exportPrefix : Option String} {a : Assembly}

theorem Step.render_accessor (h : step.assemble exportPrefix = .ok a) :
    Template.render .step accessor a.toValue = .ok step.listing := by
  obtain ⟨_, hdeclared, _, rfl, _⟩ := assemble_ok_iff.mp h
  obtain ⟨hparameters, htyped⟩ := TypedParameter.mapM_ok hdeclared
  exact Source.Command.render_accessor hparameters htyped

theorem Step.accessor_listing (h : step.assemble exportPrefix = .ok a) :
    ∃ before, Template.render .step beforeAccessor a.toValue = .ok before ∧
      Template.render .step accessor a.toValue = .ok step.listing ∧
      SourceFile.command.content a = .ok (before ++ step.listing) := by
  obtain ⟨before, hbefore⟩ := exists_before_accessor a
  have haccessor := render_accessor h
  refine ⟨before, hbefore, haccessor, Template.fill_ok_iff.mpr ?_⟩
  have htemplate : Template.render .step (beforeAccessor ++ accessor) a.toValue =
      .ok (before ++ step.listing) := by
    simp only [Template.render_append, hbefore, haccessor, Except.ok_bind]
  exact htemplate

-- A parameter that is declared again is listed again, and so is a resource that is not built.
theorem Step.accessor_listing_nested :
    let step : Step := {
      name := "deploy"
      parameters := [
        { name := "targets"
          kind := "[]string"
          references := [
            { name := "env", param := some "url" },
            { name := "vault", paths := ["a", "b"], kind := some "secret" }] },
        { name := "targets", kind := "bool", scope := ["STEPS"] }]
      containers := [{
        image := "maven"
        conditions := [
          { reference := "branch", params := [{ name := "x" }, { name := "y", value := "z" }] },
          { reference := "tag" }] }]
      resources := [{ name := "report", kind := "file" }] }
    (step.parameters.flatMap fun p => p.references.map Reference.listing) = [
      "\x7bName: \"env\", Param: \"url\" \x7d",
      "\x7bName: \"vault\", Paths: []string\x7b \"a\", \"b\" \x7d, Type: \"secret\" \x7d"] ∧
    step.containers.map Container.listing = [
      "\t\t\t\t\x7b Image: \"maven\", Conditions: []config.Condition\x7b " ++
        "\x7bConditionRef: \"branch\", Params: []config.Param\x7b " ++
        "\x7bName: \"x\", Value: \"\"\x7d, \x7bName: \"y\", Value: \"z\"\x7d \x7d \x7d, " ++
        "\x7bConditionRef: \"tag\", Params: []config.Param\x7b  \x7d \x7d \x7d,  \x7d,\n"] ∧
    step.outputsListing = String.join [
      "\t\t\tOutputs: config.StepOutputs\x7b\n",
      "\t\t\t\tResources: []config.StepResources\x7b\n",
      "\t\t\t\t\t\x7b\n",
      "\t\t\t\t\t\tName: \"report\",\n",
      "\t\t\t\t\t\tType: \"file\",\n",
      "\t\t\t\t\t\x7d,\n",
      "\t\t\t\t\x7d,\n",
      "\t\t\t\x7d,\n"] ∧
    ∃ a before, step.assemble none = .ok a ∧
      Template.render .step beforeAccessor a.toValue = .ok before ∧
      Template.render .step accessor a.toValue = .ok step.listing ∧
      SourceFile.command.content a = .ok (before ++ step.listing) := by
  intro step
  refine ⟨by decide +kernel, by decide +kernel, by decide +kernel, ?_⟩
  have hok : (step.assemble none).toOption.isSome = true := by decide +kernel
  rcases h : step.assemble none with failure | a
  · simp [h, Except.toOption] at hok
  · obtain ⟨before, hlisting⟩ := Step.accessor_listing h
    exact ⟨a, before, rfl, hlisting⟩

end StepCommand
