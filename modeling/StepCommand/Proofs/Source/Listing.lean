import StepCommand.Proofs.Text.Line
import StepCommand.Step
import StepCommand.Template.Build

namespace StepCommand

open Template (line)

namespace Source.Listing

def string (s : String) : String := "\"" ++ s ++ "\""

-- A list on one line.
def list (type : String) (items : List String) : String :=
  type ++ "\x7b " ++ ", ".intercalate items ++ " \x7d"

-- What is left out if it is empty.
def string? (s : String) : Option String := if s = "" then none else some (string s)

def list? (type : String) (items : List String) : Option String :=
  if items = [] then none else some (list type items)

-- A part of a value that goes by a name; without a text it is left out.
structure Attribute where
  name : String
  text : Option String

def Attribute.written? (a : Attribute) : Option String :=
  a.text.map fun text => a.name ++ ": " ++ text

def written (attributes : List Attribute) : List String := attributes.filterMap Attribute.written?

-- A value of several attributes on one line.
def record (attributes : List Attribute) (closing : String) : String :=
  "\x7b" ++ ", ".intercalate (written attributes) ++ closing

-- Lines for each item, with a line before and after them; no lines if there is no item.
def group? (opening : String) (items : List String) (closing : String) : String :=
  if items = [] then "" else opening ++ (String.join items ++ closing)

end Source.Listing

open Source.Listing

def Alias.listing (a : Alias) : String :=
  record [⟨"Name", some (string a.name)⟩, ⟨"Deprecated", some (toString a.deprecated)⟩] " \x7d"

def Reference.listing (r : Reference) : String :=
  record [⟨"Name", some (string r.name)⟩, ⟨"Param", string? (r.param.getD "")⟩,
    ⟨"Paths", list? "[]string" (r.paths.map string)⟩, ⟨"Type", string? (r.kind.getD "")⟩] " \x7d"

def Parameter.listing (p : Parameter) : String :=
  String.join [
    line 5 "\x7b",
    line 6 ("Name:        " ++ string p.name ++ ","),
    line 6 ("ResourceRef: " ++
      list "[]config.ResourceReference" (p.references.map Reference.listing) ++ ","),
    line 6 ("Scope:       " ++ list "[]string" (p.scope.map string) ++ ","),
    line 6 ("Type:        " ++ string p.kind ++ ","),
    line 6 ("Mandatory:   " ++ toString p.mandatory ++ ","),
    line 6 ("Aliases:     " ++ list "[]config.Alias" (p.aliases.map Alias.listing) ++ ","),
    line 5 "\x7d,"]

def NamedValue.listing (n : NamedValue) : String :=
  record [⟨"Name", some (string n.name)⟩, ⟨"Value", some (string n.value)⟩] "\x7d"

def Condition.listing (c : Condition) : String :=
  record [⟨"ConditionRef", some (string c.reference)⟩,
    ⟨"Params", some (list "[]config.Param" (c.params.map NamedValue.listing))⟩] " \x7d"

def Container.attributes (c : Container) : List Attribute := [
  ⟨"Name", string? c.name⟩,
  ⟨"Image", string? c.image⟩,
  ⟨"EnvVars", list? "[]config.EnvVar" (c.env.map NamedValue.listing)⟩,
  ⟨"WorkingDir", string? c.workingDir⟩,
  ⟨"Options", list? "[]config.Option" (c.options.map NamedValue.listing)⟩,
  ⟨"Conditions", list? "[]config.Condition" (c.conditions.map Condition.listing)⟩]

-- Here a comma stands after each attribute.
def Container.listing (c : Container) : String :=
  line 4 ("\x7b " ++ String.join ((written c.attributes).map (· ++ ", ")) ++ " \x7d,")

def Member.listing (m : Member) : String := record [⟨"\"name\"", some (string m.name)⟩] "\x7d"

def Resource.Entry.listing (e : Resource.Entry) : String :=
  line 7 (record [⟨"\"name\"", some (string e.name)⟩,
    ⟨"\"fields\"", list? "[]map[string]string" (e.fields.map Member.listing)⟩,
    ⟨"\"tags\"", list? "[]map[string]string" (e.tags.map Member.listing)⟩] " \x7d" ++ ",")

def Resource.listing (r : Resource) : String :=
  String.join [
    line 5 "\x7b",
    line 6 ("Name: " ++ string r.name ++ ","),
    line 6 ("Type: " ++ string r.kind ++ ","),
    group? (line 6 "Parameters: []map[string]interface\x7b\x7d\x7b")
      (r.entries.map Resource.Entry.listing) (line 6 "\x7d,"),
    line 5 "\x7d,"]

namespace Step

variable (s : Step)

def openingListing : String :=
  String.join [
    "// retrieve step metadata\n",
    line 0 ("func " ++ s.name ++ "Metadata() config.StepData \x7b"),
    line 1 "var theMetaData = config.StepData\x7b",
    line 2 "Metadata: config.StepMetadata\x7b",
    line 3 ("Name:        " ++ string s.name ++ ","),
    line 3 ("Aliases:     " ++ list "[]config.Alias" (s.aliases.map Alias.listing) ++ ","),
    line 3 ("Description: " ++ string s.description ++ ","),
    line 2 "\x7d,",
    line 2 "Spec: config.StepSpec\x7b",
    line 3 "Inputs: config.StepInputs\x7b"]

def parametersListing : String :=
  String.join [
    line 4 "Parameters: []config.StepParameters\x7b",
    String.join (s.parameters.map Parameter.listing),
    line 4 "\x7d,",
    line 3 "\x7d,"]

def containersListing (heading : String) (containers : List Container) : String :=
  group? (line 3 (heading ++ ": []config.Container\x7b")) (containers.map Container.listing)
    (line 3 "\x7d,")

def outputsListing : String :=
  group?
    (line 3 "Outputs: config.StepOutputs\x7b" ++ line 4 "Resources: []config.StepResources\x7b")
    (s.resources.map Resource.listing) (line 4 "\x7d," ++ line 3 "\x7d,")

def closingListing : String :=
  String.join [line 2 "\x7d,", line 1 "\x7d", line 1 "return theMetaData", line 0 "\x7d"]

-- The text for the resources stands between what does not depend on them.
def listingWith (outputs : String) : String :=
  String.join [
    s.openingListing,
    s.parametersListing,
    containersListing "Containers" s.containers,
    containersListing "Sidecars" s.sidecars,
    outputs,
    closingListing]

def listing : String := s.listingWith s.outputsListing

end Step

namespace Source.Listing

variable {name closing text s type : String} {items : List String} {rest : List Attribute}
  (f : String → String)

theorem join_written_nil : String.join ((written []).map f) = "" := rfl

theorem join_written_some : String.join ((written (⟨name, some text⟩ :: rest)).map f) =
    f (name ++ ": " ++ text) ++ String.join ((written rest).map f) := by
  simp [written, Attribute.written?]

theorem join_written_string? : String.join ((written (⟨name, string? s⟩ :: rest)).map f) =
    (if s = "" then "" else f (name ++ ": " ++ string s)) ++
      String.join ((written rest).map f) := by
  by_cases hs : s = ""
  · simp only [string?, hs, if_true, String.empty_append]
    rfl
  · simp [written, Attribute.written?, string?, hs]

theorem join_written_list? : String.join ((written (⟨name, list? type items⟩ :: rest)).map f) =
    (if items = [] then "" else f (name ++ ": " ++ list type items)) ++
      String.join ((written rest).map f) := by
  by_cases hitems : items = []
  · simp only [list?, hitems, if_true, String.empty_append]
    rfl
  · simp [written, Attribute.written?, list?, hitems]

-- The first attribute is always there.
theorem record_eq : record (⟨name, some text⟩ :: rest) closing =
    "\x7b" ++ (name ++ ": " ++ text ++
      (String.join ((written rest).map (", " ++ ·)) ++ closing)) := by
  have hwritten : written (⟨name, some text⟩ :: rest) = (name ++ ": " ++ text) :: written rest :=
    rfl
  rw [record, hwritten, intercalate_cons]
  simp only [String.append_assoc]

end Source.Listing

end StepCommand
