import StepCommand.Proofs.Source.Command

namespace StepCommand

open Source.Command
open Template

variable {a : Assembly}

-- The name is empty if a package is used under its own.
structure Import where
  name : String := ""
  path : String
deriving DecidableEq, Repr

def Import.text (i : Import) : String :=
  if i.name = "" then "\t\"" ++ i.path ++ "\"\n" else "\t" ++ i.name ++ " \"" ++ i.path ++ "\"\n"

-- The package of the commands that the prefix stands for.
def Import.shared (exportPrefix : String) : Import :=
  ⟨exportPrefix, "github.com/SAP/jenkins-library/cmd"⟩

namespace Assembly

variable (a : Assembly)

-- Every import that a command may need, with whether it is needed.
def standardTable : List (Import × Bool) := [
  ({ path := "fmt" }, true),
  ({ path := "os" }, a.readsEnvironment),
  ({ path := "path/filepath" }, !a.outputs.isEmpty),
  ({ path := "time" }, true)]

def otherTable : List (Import × Bool) := [
  (Import.shared a.exportPrefix, a.exportPrefix ≠ ""),
  ({ path := "github.com/SAP/jenkins-library/pkg/config" }, true),
  ({ path := "github.com/SAP/jenkins-library/pkg/log" }, true),
  ({ path := "github.com/SAP/jenkins-library/pkg/piperenv" }, !a.outputs.isEmpty),
  ({ path := "github.com/SAP/jenkins-library/pkg/telemetry" }, true),
  ({ path := "github.com/spf13/cobra" }, true)]

def standardImports : List Import := (a.standardTable.filter Prod.snd).map Prod.fst

def otherImports : List Import := (a.otherTable.filter Prod.snd).map Prod.fst

def imports : List Import := a.standardImports ++ a.otherImports

def importBlock : String :=
  "import (\n" ++ (String.join (a.standardImports.map Import.text) ++ ("\n" ++
    (String.join (a.otherImports.map Import.text) ++ ")\n\n")))

end Assembly

namespace Source.Command

def header : String := "// Code generated by stepgen. DO NOT EDIT.\n\npackage cmd\n\n"

theorem join_imports (table : List (Import × Bool)) :
    String.join (((table.filter Prod.snd).map Prod.fst).map Import.text) =
      String.join (table.map fun entry => if entry.2 then entry.1.text else "") := by
  rw [join_map_ite, List.map_map]
  rfl

-- A line that is left out unless the record has a value that counts as true.
theorem fill_import {scope : Scope} {name : String} {value : Value} {lines : List String}
    {i : Import} (hvalue : scope.inner.value.field? name = some value)
    (hlines : String.join lines = i.text) :
    (when name [block lines]).fill .step scope =
      .ok (if Template.isTrue (some value) then i.text else "") := by
  rw [fill_when_isTrue hvalue, block, hlines]
  split
  next => simp only [fillAll_cons, fillAll_nil, fill_text, Except.ok_bind, String.append_empty]
  next => rfl

theorem fill_outputsImport (a : Assembly) {lines : List String} {i : Import}
    (hlines : String.join lines = i.text) :
    (when "output_resources" [block lines]).fill .step (Scope.ofRecord a.toValue) =
      .ok (if !a.outputs.isEmpty then i.text else "") := by
  have hvalue : (Scope.ofRecord a.toValue).inner.value.field? "output_resources" =
      some (.list (a.outputs.map Output.toValue)) := rfl
  have htrue : Template.isTrue (some (.list (a.outputs.map Output.toValue))) =
      !a.outputs.isEmpty := by
    cases h : a.outputs <;> rfl
  rw [fill_import hvalue hlines, htrue]

theorem fill_shared (a : Assembly) :
    (when "export_prefix" ["\t", field "export_prefix",
      " \"github.com/SAP/jenkins-library/cmd\"\n"]).fill .step (Scope.ofRecord a.toValue) =
      .ok (if a.exportPrefix ≠ "" then (Import.shared a.exportPrefix).text else "") := by
  have hprefix : (field "export_prefix").fill .step (Scope.ofRecord a.toValue) =
      .ok a.exportPrefix := fill_field rfl rfl
  have hvalue : (Scope.ofRecord a.toValue).inner.value.field? "export_prefix" =
      some (.text a.exportPrefix) := rfl
  rw [fill_when_isTrue hvalue]
  by_cases h : a.exportPrefix = ""
  · simp [h, Template.isTrue]
  · have htrue : Template.isTrue (some (.text a.exportPrefix)) = true := by
      simp [Template.isTrue, h]
    have hpath : " \"github.com/SAP/jenkins-library/cmd\"\n" =
        " \"" ++ ("github.com/SAP/jenkins-library/cmd" ++ "\"\n") := by simp
    simp only [htrue, if_true, h, ne_eq, not_false_eq_true, fillAll_cons, fillAll_nil, fill_text,
      hprefix, Except.ok_bind, Import.text, Import.shared, if_false, hpath]
    simp only [String.append_assoc, String.append_empty]

theorem render_imports (a : Assembly) :
    render .step imports a.toValue = .ok (header ++ a.importBlock) := by
  have hreads : (Scope.ofRecord a.toValue).inner.value.field? "os_import" =
      some (.bool a.readsEnvironment) := rfl
  have hos : (when "os_import" [block [line 1 r#""os""#]]).fill .step (Scope.ofRecord a.toValue) =
      .ok (if a.readsEnvironment then Import.text { path := "os" } else "") :=
    fill_import hreads (by simp [line, tabs_one, Import.text])
  have hfilepath : (when "output_resources" [block [line 1 r#""path/filepath""#]]).fill .step
      (Scope.ofRecord a.toValue) =
      .ok (if !a.outputs.isEmpty then Import.text { path := "path/filepath" } else "") :=
    fill_outputsImport a (by simp [line, tabs_one, Import.text])
  have hpiperenv : (when "output_resources" [block [
      line 1 r#""github.com/SAP/jenkins-library/pkg/piperenv""#]]).fill .step
      (Scope.ofRecord a.toValue) = .ok (if !a.outputs.isEmpty then
        Import.text { path := "github.com/SAP/jenkins-library/pkg/piperenv" } else "") :=
    fill_outputsImport a (by simp [line, tabs_one, Import.text])
  have hopening : block [
      line 0 r#"// Code generated by stepgen. DO NOT EDIT."#,
      line 0 "",
      line 0 r#"package cmd"#,
      line 0 "",
      line 0 r#"import ("#,
      line 1 r#""fmt""#] =
      .text (header ++ ("import (\n" ++ Import.text { path := "fmt" })) := by
    simp [block, line, tabs_zero, tabs_one, header, Import.text]
  have htime : block [line 1 r#""time""#, line 0 ""] =
      .text (Import.text { path := "time" } ++ "\n") := by
    simp [block, line, tabs_zero, tabs_one, Import.text]
  have hconfig : block [
      line 1 r#""github.com/SAP/jenkins-library/pkg/config""#,
      line 1 r#""github.com/SAP/jenkins-library/pkg/log""#] =
      .text (Import.text { path := "github.com/SAP/jenkins-library/pkg/config" } ++
        Import.text { path := "github.com/SAP/jenkins-library/pkg/log" }) := by
    simp [block, line, tabs_one, Import.text]
  have htelemetry : block [
      line 1 r#""github.com/SAP/jenkins-library/pkg/telemetry""#,
      line 1 r#""github.com/spf13/cobra""#,
      line 0 r#")"#,
      line 0 ""] =
      .text (Import.text { path := "github.com/SAP/jenkins-library/pkg/telemetry" } ++
        (Import.text { path := "github.com/spf13/cobra" } ++ ")\n\n")) := by
    simp [block, line, tabs_zero, tabs_one, Import.text]
  rw [render, imports]
  simp only [fillAll_cons, fillAll_nil, fill_text, hopening, hos, hfilepath, htime, fill_shared,
    hconfig, hpiperenv, htelemetry, Except.ok_bind]
  unfold Assembly.importBlock Assembly.standardImports Assembly.otherImports
  rw [join_imports, join_imports]
  simp only [Assembly.standardTable, Assembly.otherTable, List.map_cons, List.map_nil,
    String.join_cons, String.join_nil, if_true, String.append_assoc, String.append_empty,
    decide_eq_true_eq]

end Source.Command

theorem Literal.ofDefault_readsEnvironment_iff {name : String} {type : ParameterType}
    {default : Option Value} :
    (ofDefault name type default).readsEnvironment = true ↔ type = .string ∧ default = none := by
  constructor
  · intro h
    cases default with
    | none =>
        cases type with
        | string => exact ⟨rfl, rfl⟩
        | _ => cases h
    | some value => cases type <;> cases h
  · rintro ⟨rfl, rfl⟩
    rfl

-- The default that is looked up in the environment.
def TypedParameter.IsLookedUp (p : TypedParameter) : Prop :=
  p.literal = Literal.undeclared p.name .string

theorem TypedParameter.isLookedUp_iff {p : TypedParameter} :
    p.IsLookedUp ↔ p.type = .string ∧ p.declaration.default = none := by
  have hreads : (Literal.ofDefault p.name p.type p.declaration.default).readsEnvironment = true ↔
      p.type = .string ∧ p.declaration.default = none := Literal.ofDefault_readsEnvironment_iff
  rw [← hreads]
  constructor
  · intro h
    have hread : p.literal.readsEnvironment = true := by
      rw [h]
      rfl
    exact hread
  · intro h
    obtain ⟨htype, hdefault⟩ := Literal.ofDefault_readsEnvironment_iff.mp h
    rw [IsLookedUp, literal, htype, hdefault]
    rfl

theorem TypedParameter.readsEnvironment_iff {p : TypedParameter} :
    p.literal.readsEnvironment = true ↔ p.IsLookedUp := by
  rw [isLookedUp_iff, literal, Literal.ofDefault_readsEnvironment_iff]

namespace Assembly

theorem mem_imports_iff {i : Import} :
    i ∈ a.imports ↔ (i, true) ∈ a.standardTable ++ a.otherTable := by
  rw [imports, standardImports, otherImports, ← List.map_append, ← List.filter_append,
    List.mem_map]
  constructor
  · rintro ⟨⟨j, needed⟩, hmem, rfl⟩
    obtain ⟨hmem, htrue⟩ := List.mem_filter.mp hmem
    have hneeded : needed = true := htrue
    exact hneeded ▸ hmem
  · intro h
    exact ⟨(i, true), List.mem_filter.mpr ⟨h, rfl⟩, rfl⟩

theorem nodup_paths_imports (a : Assembly) : (a.imports.map Import.path).Nodup := by
  have hall : ((a.standardTable ++ a.otherTable).map fun entry => entry.1.path).Nodup := by
    simp [standardTable, otherTable, Import.shared]
  have hsublist : (a.imports.map Import.path).Sublist
      ((a.standardTable ++ a.otherTable).map fun entry => entry.1.path) := by
    rw [imports, standardImports, otherImports, ← List.map_append, ← List.filter_append,
      List.map_map]
    exact List.filter_sublist.map _
  exact hall.sublist hsublist

theorem os_mem_imports_iff :
    { path := "os" } ∈ a.imports ↔ ∃ p ∈ a.parameters, p.IsLookedUp := by
  have hread : a.readsEnvironment = true ↔ ∃ p ∈ a.parameters, p.IsLookedUp := by
    simp only [readsEnvironment, List.any_eq_true, TypedParameter.readsEnvironment_iff]
  rw [mem_imports_iff, ← hread]
  simp [standardTable, otherTable, Import.shared]

theorem filepath_mem_imports_iff :
    { path := "path/filepath" } ∈ a.imports ↔ a.outputs ≠ [] := by
  rw [mem_imports_iff]
  simp [standardTable, otherTable, Import.shared]

theorem piperenv_mem_imports_iff :
    { path := "github.com/SAP/jenkins-library/pkg/piperenv" } ∈ a.imports ↔ a.outputs ≠ [] := by
  rw [mem_imports_iff]
  simp [standardTable, otherTable, Import.shared]

theorem shared_mem_imports_iff :
    Import.shared a.exportPrefix ∈ a.imports ↔ a.exportPrefix ≠ "" := by
  rw [mem_imports_iff]
  simp [standardTable, otherTable, Import.shared]

end Assembly

end StepCommand
