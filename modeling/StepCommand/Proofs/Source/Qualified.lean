import StepCommand.Generator.Settings
import StepCommand.Proofs.Output
import StepCommand.Proofs.Source.Imports
import StepCommand.Proofs.Source.Stub
import StepCommand.Proofs.Template.Mark

namespace StepCommand

open Source.Command
open Template

namespace Assembly

def withPrefix (a : Assembly) (exportPrefix : String) : Assembly := { a with exportPrefix }

-- The fields of the record that tell the prefix.
def prefixFields : List String := ["export_prefix", "qualifier"]

variable {a : Assembly} {exportPrefix other : String}

theorem field?_withPrefix {name : String} (h : name ∉ prefixFields) :
    (a.withPrefix exportPrefix).toValue.field? name = a.toValue.field? name := by
  simp only [prefixFields, List.mem_cons, List.not_mem_nil, or_false, not_or] at h
  simp only [toValue, Value.field?, List.lookup_cons, beq_false_of_ne h.1, beq_false_of_ne h.2]
  rfl

theorem alike_withPrefix :
    (shape.without prefixFields).Alike (a.withPrefix exportPrefix).toValue
      (a.withPrefix other).toValue :=
  Shape.alike_without (a.withPrefix exportPrefix).shape_admits rfl fun _ hname =>
    (field?_withPrefix hname).trans (field?_withPrefix hname).symm

end Assembly

-- What follows a mark, up to the next one, begins with the use.
def Opens (use s : String) : Prop := ∃ after, s = use ++ after

def Cut (uses : List String) (text : String → String) : Prop :=
  ∃ first rest, List.Forall₂ Opens uses rest ∧
    ∀ mark, text mark = first ++ String.join (rest.map (mark ++ ·))

namespace Cut

variable {uses : List String} {text : String → String}

theorem nil : Cut [] fun _ => "" := ⟨"", [], .nil, fun _ => rfl⟩

theorem prepend (s : String) (h : Cut uses text) : Cut uses fun mark => s ++ text mark := by
  obtain ⟨first, rest, hrest, htext⟩ := h
  exact ⟨s ++ first, rest, hrest, fun mark => by simp only [htext, String.append_assoc]⟩

theorem cons (use : String) (h : Cut uses text) :
    Cut (use :: uses) fun mark => mark ++ (use ++ text mark) := by
  obtain ⟨first, rest, hrest, htext⟩ := h
  refine ⟨"", (use ++ first) :: rest, .cons ⟨first, rfl⟩ hrest, fun mark => ?_⟩
  simp only [htext, List.map_cons, String.join_cons, String.empty_append, String.append_assoc]

-- A line for each item, with a mark inside.
theorem join {α : Type} {before use : α → String} (xs : List α) (h : Cut uses text) :
    Cut (xs.map use ++ uses) fun mark =>
      String.join (xs.map fun x => before x ++ (mark ++ use x)) ++ text mark := by
  induction xs with
  | nil => simpa using h
  | cons x rest ih =>
      have hcons := (ih.cons (use x)).prepend (before x)
      simpa only [List.map_cons, List.cons_append, String.join_cons, String.append_assoc]
        using hcons

end Cut

namespace Source.Command

-- The names of the shared package that a command uses.
def sharedNames : List String := ["GeneralConfig", "PrepareConfig"]

-- What is filled alike for all prefixes and has none of the names in its text.
def isStill (node : Node) : Bool :=
  node.reads .step (.ofRecord (Assembly.shape.without Assembly.prefixFields)) &&
    node.fits .step (.ofRecord Assembly.shape) &&
    sharedNames.all fun name => mentions name [node] == 0

-- The text behind each place for the qualifier, if no other part reacts to the prefix.
def usesOf? : Template → Option (List String)
  | [] => some []
  | node :: rest =>
      if isStill node then usesOf? rest
      else
        match node, rest with
        | .print (.path p), .text s :: rest =>
            if p = .field "qualifier" ∧ IsUse sharedNames s then (usesOf? rest).map (s :: ·)
            else none
        | _, _ => none

variable {a : Assembly} {node : Node} {part front back : Template} {uses more : List String}
  {text : String → String}

-- With a prefix the part is filled as it is without one when the names in it are marked.
def Filled (a : Assembly) (part : Template) (text : String → String) : Prop :=
  ∀ exportPrefix,
    render .step part (a.withPrefix exportPrefix).toValue =
        .ok (text (a.withPrefix exportPrefix).qualifier) ∧
      render .step (markedAll sharedNames (a.withPrefix exportPrefix).qualifier part)
        (a.withPrefix "").toValue = .ok (text (a.withPrefix exportPrefix).qualifier)

theorem exists_fill_of_isStill (a : Assembly) (h : isStill node = true) :
    ∃ s, ∀ exportPrefix,
      node.fill .step (Scope.ofRecord (a.withPrefix exportPrefix).toValue) = .ok s := by
  simp only [isStill, Bool.and_eq_true] at h
  obtain ⟨s, hs⟩ := Node.fill_of_fits .step node _ _
    (Shape.Scope.admits_ofRecord (a.withPrefix "").shape_admits) h.1.2
  refine ⟨s, fun exportPrefix => ?_⟩
  rw [← hs]
  exact Node.fill_alike .step node _ _ _
    (Shape.Scope.alike_ofRecord Assembly.alike_withPrefix) h.1.1

theorem marked_of_isStill (mark : String) (h : isStill node = true) :
    node.marked sharedNames mark = node := by
  simp only [isStill, Bool.and_eq_true, List.all_eq_true, beq_iff_eq] at h
  have hall : markedAll sharedNames mark [node] = [node] := markedAll_of_mentions h.2
  exact List.head_eq_of_cons_eq hall

theorem fill_qualifier (a : Assembly) : (field "qualifier").fill .step (Scope.ofRecord a.toValue) =
    .ok a.qualifier :=
  fill_field rfl rfl

theorem Filled.still_cons (h : isStill node = true) (hpart : Filled a part text) :
    ∃ s, Filled a (node :: part) fun mark => s ++ text mark := by
  obtain ⟨s, hs⟩ := exists_fill_of_isStill a h
  refine ⟨s, fun exportPrefix => ?_⟩
  obtain ⟨hplain, hmarked⟩ := hpart exportPrefix
  rw [render] at hplain hmarked
  rw [markedAll_cons, marked_of_isStill _ h, render, render, fillAll_cons, fillAll_cons, hs, hs,
    Except.ok_bind, Except.ok_bind, hplain, hmarked]
  exact ⟨rfl, rfl⟩

theorem Filled.use_cons {use : String} (h : IsUse sharedNames use) (hpart : Filled a part text) :
    Filled a (field "qualifier" :: .text use :: part) fun mark => mark ++ (use ++ text mark) := by
  intro exportPrefix
  obtain ⟨hplain, hmarked⟩ := hpart exportPrefix
  have hnone : (a.withPrefix "").qualifier = "" := rfl
  have hfield : (field "qualifier").marked sharedNames (a.withPrefix exportPrefix).qualifier =
      field "qualifier" := rfl
  rw [render] at hplain hmarked
  rw [markedAll_cons, markedAll_cons, hfield, Node.marked, marked_of_isUse h, render, render]
  simp only [fillAll_cons, fill_qualifier, fill_text, hnone, hplain, hmarked, Except.ok_bind,
    String.empty_append, String.append_assoc, and_self]

theorem exists_cut_append (hf : usesOf? front = some uses) (hb : Filled a back text)
    (hc : Cut more text) : ∃ whole, Filled a (front ++ back) whole ∧ Cut (uses ++ more) whole := by
  fun_induction usesOf? front generalizing uses with
  | case1 =>
      cases hf
      exact ⟨text, hb, hc⟩
  | case2 node rest hstill ih =>
      obtain ⟨whole, hwhole, hcut⟩ := ih hf
      obtain ⟨s, hfilled⟩ := hwhole.still_cons hstill
      exact ⟨_, hfilled, hcut.prepend s⟩
  | case3 p s rest hplace _ ih =>
      obtain ⟨following, hfollowing, rfl⟩ := Option.map_eq_some_iff.mp hf
      obtain ⟨whole, hwhole, hcut⟩ := ih hfollowing
      obtain ⟨rfl, huse⟩ := hplace
      exact ⟨_, hwhole.use_cons huse, hcut.cons s⟩
  | case4 => cases hf
  | case5 => cases hf

-- The line that imports the shared package.
def sharedImport : Node :=
  when "export_prefix" ["\t", field "export_prefix", " \"github.com/SAP/jenkins-library/cmd\"\n"]

def beforeShared : Template := imports.take 4

-- The call that stores a resource.
def persistLine (use : String) : Template := [
  "\t\t\t\t", field "name", ".persist(", rootField "qualifier", use, field "name", "\")\n"]

def rootPath : String := "GeneralConfig.EnvRootPath, \""

def beforeCalls : Template :=
  imports.drop 5 ++ options ++ definitions ++ constructorHead ++ preparation ++ execution.take 1

def afterCalls : Template := execution.drop 2 ++ constructorTail ++ flags ++ accessor

def afterShared : Template :=
  beforeCalls ++ forEach "output_resources" (persistLine rootPath) :: afterCalls

theorem template_eq_shared : template = beforeShared ++ sharedImport :: afterShared := rfl

-- What stands behind the qualifiers.
def usesBeforeCalls : List String := [
  "GeneralConfig.Verbose)\n\n",
  "GeneralConfig.CorrelationID\x7d\n",
  "PrepareConfig(cmd, &metadata, STEP_NAME, &stepConfig, config.OpenPiperFile)\n",
  "GeneralConfig.HookConfig.SentryConfig.Dsn) > 0 \x7b\n",
  "GeneralConfig.HookConfig.SentryConfig.Dsn, ",
  "GeneralConfig.CorrelationID)\n"]

def persistUse (o : Output) : String := rootPath ++ (o.name ++ "\")\n")

def usesAfterCalls : List String := ["GeneralConfig.NoTelemetry, STEP_NAME)\n"]

theorem usesOf?_sections : usesOf? beforeShared = some [] ∧
    usesOf? beforeCalls = some usesBeforeCalls ∧ usesOf? afterCalls = some usesAfterCalls := by
  decide +kernel

theorem fill_rootField {table : Table} {scope : Scope} {name s : String}
    (hname : table.helper? ("@root." ++ name) = none)
    (hvalue : scope.record.field? name = some (.text s)) :
    (rootField name).fill table scope = .ok s := by
  have hprint : table.helper? (Path.ofRecord name).text = none := hname
  have hpath : (Path.ofRecord name).eval scope = .ok (some (.text s)) := descend_of_field? hvalue
  rw [rootField, Node.fill, print, hprint, Argument.eval, hpath]
  rfl

theorem fill_persistLine {a : Assembly} {position : List (String × Value)} (use : String)
    (o : Output) :
    fillAll .step (persistLine use) ((Scope.ofRecord a.toValue).enter ⟨o.toValue, position⟩) =
      .ok ("\t\t\t\t" ++ (o.name ++ ".persist(") ++
        (a.qualifier ++ (use ++ (o.name ++ "\")\n")))) := by
  have hname : (field "name").fill .step ((Scope.ofRecord a.toValue).enter ⟨o.toValue, position⟩) =
      .ok o.name := fill_field rfl rfl
  have hqualifier : (rootField "qualifier").fill .step
      ((Scope.ofRecord a.toValue).enter ⟨o.toValue, position⟩) = .ok a.qualifier :=
    fill_rootField rfl rfl
  simp only [persistLine, fillAll_cons, fillAll_nil, fill_text, hname, hqualifier, Except.ok_bind,
    String.append_assoc, String.append_empty]

theorem marked_persistLine (mark : String) :
    markedAll sharedNames mark (persistLine rootPath) = persistLine (mark ++ rootPath) := by
  have huse : IsUse sharedNames rootPath := by decide +kernel
  have hbefore : markedAll sharedNames mark ((persistLine rootPath).take 4) =
      (persistLine rootPath).take 4 := markedAll_of_mentions (by decide +kernel)
  have hafter : markedAll sharedNames mark ((persistLine rootPath).drop 5) =
      (persistLine rootPath).drop 5 := markedAll_of_mentions (by decide +kernel)
  have hsplit : persistLine rootPath =
      (persistLine rootPath).take 4 ++ .text rootPath :: (persistLine rootPath).drop 5 := rfl
  rw [hsplit, markedAll_append, markedAll_cons, hbefore, hafter, Node.marked, marked_of_isUse huse]
  rfl

theorem Filled.calls_cons (hpart : Filled a part text) :
    Filled a (forEach "output_resources" (persistLine rootPath) :: part) fun mark =>
      String.join (a.outputs.map fun o => "\t\t\t\t" ++ (o.name ++ ".persist(") ++
        (mark ++ persistUse o)) ++ text mark := by
  intro exportPrefix
  obtain ⟨hplain, hmarked⟩ := hpart exportPrefix
  rw [render] at hplain hmarked
  have hcalls : ∀ (exportPrefix use : String), (forEach "output_resources" (persistLine use)).fill
      .step (Scope.ofRecord (a.withPrefix exportPrefix).toValue) =
      .ok (String.join (a.outputs.map fun o => "\t\t\t\t" ++ (o.name ++ ".persist(") ++
        ((a.withPrefix exportPrefix).qualifier ++ (use ++ (o.name ++ "\")\n"))))) :=
    fun exportPrefix use => fill_forEach rfl fun o _ position => fill_persistLine use o
  have hnone : (a.withPrefix "").qualifier = "" := rfl
  have hloop : (forEach "output_resources" (persistLine rootPath)).marked sharedNames
      (a.withPrefix exportPrefix).qualifier = forEach "output_resources"
        (persistLine ((a.withPrefix exportPrefix).qualifier ++ rootPath)) := by
    rw [forEach, Node.marked, marked_persistLine, forEach]
  rw [markedAll_cons, hloop, render, render]
  simp only [fillAll_cons, hcalls, hnone, hplain, hmarked, Except.ok_bind, persistUse,
    String.empty_append, String.append_assoc, and_self]

theorem filled_nil (a : Assembly) : Filled a [] fun _ => "" := fun _ => ⟨rfl, rfl⟩

end Source.Command

-- The uses of shared names in the order of the file: six settings, a call for each output resource,
-- and one setting after the calls.
def Assembly.sharedUses (a : Assembly) : List String :=
  usesBeforeCalls ++ (a.outputs.map persistUse ++ usesAfterCalls)

namespace Source.Command

variable (a : Assembly)

theorem exists_cut_afterShared : ∃ text, Filled a afterShared text ∧ Cut a.sharedUses text := by
  obtain ⟨_, hbefore, hlast⟩ := usesOf?_sections
  obtain ⟨after, hafter, hcut⟩ := exists_cut_append hlast (filled_nil a) Cut.nil
  rw [List.append_nil] at *
  exact exists_cut_append hbefore hafter.calls_cons (hcut.join _)

theorem exists_filled_beforeShared : ∃ head, Filled a beforeShared fun _ => head := by
  obtain ⟨text, htext, first, rest, hrest, hcut⟩ :=
    exists_cut_append usesOf?_sections.1 (filled_nil a) Cut.nil
  rw [List.append_nil] at *
  cases hrest
  refine ⟨first, fun exportPrefix => ?_⟩
  simpa only [hcut, List.map_nil, String.join_nil, String.append_empty] using htext exportPrefix

-- The template with the import of the shared package in it, and the qualifier before each use.
def qualified (exportPrefix : String) : Template :=
  markedAll sharedNames (exportPrefix ++ ".") beforeShared ++
    .text (Import.shared exportPrefix).text ::
      markedAll sharedNames (exportPrefix ++ ".") afterShared

-- The text of a command without a prefix, cut where a prefix shows.
structure Pieces where
  head : String
  first : String
  rest : List String

def Pieces.plain (p : Pieces) : String := p.head ++ (p.first ++ String.join p.rest)

def Pieces.qualified (p : Pieces) (exportPrefix : String) : String :=
  p.head ++ ((Import.shared exportPrefix).text ++
    (p.first ++ String.join (p.rest.map (exportPrefix ++ "." ++ ·))))

theorem qualifier_withPrefix {exportPrefix : String} (h : exportPrefix ≠ "") :
    (a.withPrefix exportPrefix).qualifier = exportPrefix ++ "." :=
  if_neg h

theorem fill_sharedImport (exportPrefix : String) :
    sharedImport.fill .step (Scope.ofRecord (a.withPrefix exportPrefix).toValue) =
      .ok (if exportPrefix ≠ "" then (Import.shared exportPrefix).text else "") :=
  fill_shared (a.withPrefix exportPrefix)

theorem exists_pieces : ∃ p : Pieces, List.Forall₂ Opens a.sharedUses p.rest ∧
    SourceFile.command.content (a.withPrefix "") = .ok p.plain ∧
    ∀ exportPrefix, exportPrefix ≠ "" →
      SourceFile.command.content (a.withPrefix exportPrefix) = .ok (p.qualified exportPrefix) ∧
        render .step (qualified exportPrefix) (a.withPrefix "").toValue =
          .ok (p.qualified exportPrefix) := by
  obtain ⟨head, hhead⟩ := exists_filled_beforeShared a
  obtain ⟨text, htext, first, rest, hrest, hcut⟩ := exists_cut_afterShared a
  have hrender : ∀ exportPrefix, render .step template (a.withPrefix exportPrefix).toValue =
      .ok (head ++ ((if exportPrefix ≠ "" then (Import.shared exportPrefix).text else "") ++
        text (a.withPrefix exportPrefix).qualifier)) := by
    intro exportPrefix
    have hbefore := (hhead exportPrefix).1
    have hafter := (htext exportPrefix).1
    rw [render] at hbefore hafter
    simp only [template_eq_shared, render, fillAll_append, fillAll_cons, hbefore, hafter,
      fill_sharedImport, Except.ok_bind]
  refine ⟨⟨head, first, rest⟩, hrest, ?_, fun exportPrefix hne => ⟨?_, ?_⟩⟩
  · have hnone : (a.withPrefix "").qualifier = "" := rfl
    refine Template.fill_ok_iff.mpr ((hrender "").trans ?_)
    simp [Pieces.plain, hnone, hcut]
  · refine Template.fill_ok_iff.mpr ((hrender exportPrefix).trans ?_)
    simp only [Pieces.qualified, hne, qualifier_withPrefix a hne, hcut, ne_eq, not_false_eq_true,
      if_true]
  · have hbefore := (hhead exportPrefix).2
    have hafter := (htext exportPrefix).2
    rw [render, qualifier_withPrefix a hne] at hbefore hafter
    simp only [qualified, render, fillAll_append, fillAll_cons, fill_text, hbefore, hafter,
      Except.ok_bind, Pieces.qualified, hcut]

end Source.Command

theorem Step.assemble_withPrefix (step : Step) (exportPrefix : Option String) :
    step.assemble exportPrefix =
      (step.assemble none).map fun a => a.withPrefix (exportPrefix.getD "") :=
  assemble_map rfl rfl rfl fun _ _ => rfl

-- All that a prefix does: the record tells it in two fields, and the command file imports the
-- shared package and qualifies what it uses of it.
structure Assembly.IsQualified (a b : Assembly) (p : Source.Command.Pieces)
    (exportPrefix : String) : Prop where
  kept : ∀ name, name ∉ prefixFields → b.toValue.field? name = a.toValue.field? name
  told : b.toValue.field? "export_prefix" = some (.text exportPrefix)
  qualifies : b.toValue.field? "qualifier" = some (.text (exportPrefix ++ "."))
  command : SourceFile.command.content b = .ok (p.qualified exportPrefix)
  edited : render .step (Source.Command.qualified exportPrefix) a.toValue =
    .ok (p.qualified exportPrefix)
  others : ∀ file ∈ SourceFile.all, file ≠ SourceFile.command → file.IsShared a b

theorem Step.assemble_qualified (step : Step) :
    (step.assemble (some "") = step.assemble none ∧
      ∀ s : Generator.Settings, s.withExportPrefix (some "") = s.withExportPrefix none) ∧
    (∀ exportPrefix, exportPrefix ≠ "" → ∀ failure,
      step.assemble (some exportPrefix) = .error failure ↔ step.assemble none = .error failure) ∧
    ∀ a, step.assemble none = .ok a → ∃ p : Source.Command.Pieces,
      SourceFile.command.content a = .ok p.plain ∧
      List.Forall₂ Opens a.sharedUses p.rest ∧
      ∀ exportPrefix, exportPrefix ≠ "" →
        ∃ b, step.assemble (some exportPrefix) = .ok b ∧ a.IsQualified b p exportPrefix := by
  refine ⟨⟨rfl, fun s => rfl⟩, ?_, ?_⟩
  · intro exportPrefix _ failure
    rw [assemble_withPrefix]
    cases step.assemble none with
    | error cause => simp [Except.map]
    | ok a => simp [Except.map]
  · intro a ha
    obtain ⟨p, hrest, hplain, hqualified⟩ := Source.Command.exists_pieces a
    have hnone : a.withPrefix "" = a := by
      obtain ⟨_, _, _, _, hempty⟩ := assemble_ok_iff.mp ha
      rw [Option.getD_none] at hempty
      rw [Assembly.withPrefix, ← hempty]
    rw [hnone] at hplain hqualified
    refine ⟨p, hplain, hrest, fun exportPrefix hne => ?_⟩
    refine ⟨a.withPrefix exportPrefix, by rw [assemble_withPrefix, ha]; rfl, ?_⟩
    obtain ⟨hcommand, hedited⟩ := hqualified exportPrefix hne
    exact {
      kept := fun name hname => Assembly.field?_withPrefix hname
      told := rfl
      qualifies := by rw [← Source.Command.qualifier_withPrefix a hne]; rfl
      command := hcommand
      edited := hedited
      others := by
        intro file hfile hother
        rw [SourceFile.all, List.mem_cons, List.mem_cons] at hfile
        obtain rfl | rfl | hstub := hfile
        · exact absurd rfl hother
        · exact SourceFile.commandTest_isShared rfl
        · exact SourceFile.stub_isShared hstub rfl rfl }

-- Two resources are stored, each with a qualified path.
theorem Step.assemble_qualified_two :
    let step : Step := {
      name := "deploy"
      description := "Reads the GeneralConfig."
      parameters := [{ name := "token", kind := "string", secret := true }]
      resources := [
        { name := "env", kind := "piperEnvironment", entries := [{ name := "url" }] },
        { name := "times", kind := "influx" }] }
    ∃ a b p, step.assemble none = .ok a ∧ step.assemble (some "piper") = .ok b ∧
      a.IsQualified b p "piper" ∧ p.rest.length = 9 ∧
      SourceFile.command.content a = .ok p.plain := by
  intro step
  have hok : (step.assemble none).toOption.map (fun a => a.outputs.length) = some 2 := by
    decide +kernel
  rcases ha : step.assemble none with failure | a
  · simp [ha, Except.toOption] at hok
  simp only [ha, Except.toOption, Option.map_some, Option.some.injEq] at hok
  obtain ⟨_, _, hall⟩ := step.assemble_qualified
  obtain ⟨p, hplain, hrest, hqualified⟩ := hall a ha
  obtain ⟨b, hb, hab⟩ := hqualified "piper" (by decide)
  have hlength := hrest.length_eq
  simp only [Assembly.sharedUses, usesBeforeCalls, usesAfterCalls, List.length_append,
    List.length_map, hok, List.length_cons, List.length_nil] at hlength
  exact ⟨a, b, p, rfl, hb, hab, hlength.symm, hplain⟩

end StepCommand
