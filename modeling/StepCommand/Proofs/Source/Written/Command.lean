import StepCommand.Proofs.Template.Spelled
import StepCommand.Source.Command
import StepCommand.Source.CommandTest

namespace StepCommand.Source

open Template
open Text (ofLines toList_ofLines)

namespace Command

def openingLines : List String := [
  "// Code generated by stepgen. DO NOT EDIT.",
  "",
  "package cmd",
  "",
  "import (",
  "\t\"fmt\"",
  "\x7b\x7b#if os_import\x7d\x7d",
  "\t\"os\"",
  "\x7b\x7b/if\x7d\x7d",
  "\x7b\x7b#if output_resources\x7d\x7d",
  "\t\"path/filepath\"",
  "\x7b\x7b/if\x7d\x7d",
  "\t\"time\"",
  "",
  "\x7b\x7b#if export_prefix\x7d\x7d",
  "\t\x7b\x7bexport_prefix\x7d\x7d \"github.com/SAP/jenkins-library/cmd\"",
  "\x7b\x7b/if\x7d\x7d",
  "\t\"github.com/SAP/jenkins-library/pkg/config\"",
  "\t\"github.com/SAP/jenkins-library/pkg/log\"",
  "\x7b\x7b#if output_resources\x7d\x7d",
  "\t\"github.com/SAP/jenkins-library/pkg/piperenv\"",
  "\x7b\x7b/if\x7d\x7d",
  "\t\"github.com/SAP/jenkins-library/pkg/telemetry\"",
  "\t\"github.com/spf13/cobra\"",
  ")",
  "",
  "type \x7b\x7bstep_name\x7d\x7dOptions struct \x7b",
  "\x7b\x7b#each parameters\x7d\x7d",
  ("\t\x7b\x7bgolangName name\x7d\x7d \x7b\x7bgo_type\x7d\x7d `json:\"\x7b\x7bname\x7d\x7d" ++
    ",omitempty\"`"),
  "\x7b\x7b/each\x7d\x7d",
  "\x7d",
  "\x7b\x7b#each output_resources\x7d\x7d",
  "",
  "\x7b\x7bdef\x7d\x7d",
  "\x7b\x7b/each\x7d\x7d"]

def constructorLines : List String := [
  "",
  "// \x7b\x7bcobra_cmd_func_name\x7d\x7d \x7b\x7bshort\x7d\x7d",
  "func \x7b\x7bcobra_cmd_func_name\x7d\x7d() *cobra.Command \x7b",
  "\tconst STEP_NAME = \"\x7b\x7bstep_name\x7d\x7d\"",
  "",
  "\tmetadata := \x7b\x7bstep_name\x7d\x7dMetadata()",
  "\tvar stepConfig \x7b\x7bstep_name\x7d\x7dOptions",
  "\tvar startTime time.Time",
  "\x7b\x7b#each output_resources\x7d\x7d",
  "\tvar \x7b\x7bname\x7d\x7d \x7b\x7bobject_name\x7d\x7d",
  "\x7b\x7b/each\x7d\x7d",
  "",
  "\tvar \x7b\x7bcreate_cmd_var\x7d\x7d = &cobra.Command\x7b",
  "\t\tUse:   STEP_NAME,",
  "\t\tShort: \"\x7b\x7bshort\x7d\x7d\",",
  "\t\tLong:  `\x7b\x7blongName long\x7d\x7d`,",
  "\t\tPreRunE: func(cmd *cobra.Command, _ []string) error \x7b",
  "\t\t\tstartTime = time.Now()",
  "\t\t\tlog.SetStepName(STEP_NAME)",
  "\t\t\tlog.SetVerbose(\x7b\x7bqualifier\x7d\x7dGeneralConfig.Verbose)",
  "",
  ("\t\t\tfatalHook := &log.FatalHook\x7bCorrelationID: \x7b\x7bqualifier\x7d\x7d" ++
    "GeneralConfig.CorrelationID\x7d"),
  "\t\t\tlog.RegisterHook(fatalHook)",
  "",
  ("\t\t\terr := \x7b\x7bqualifier\x7d\x7dPrepareConfig(cmd, &metadata, STEP_NAME, " ++
    "&stepConfig, config.OpenPiperFile)"),
  "\t\t\tif err != nil \x7b",
  "\t\t\t\tlog.SetErrorCategory(log.ErrorConfiguration)",
  "\t\t\t\treturn err",
  "\t\t\t\x7d",
  "\x7b\x7b#each secrets\x7d\x7d",
  "\t\t\tlog.RegisterSecret(stepConfig.\x7b\x7bgolangName this\x7d\x7d)",
  "\x7b\x7b/each\x7d\x7d",
  "",
  "\t\t\tif len(\x7b\x7bqualifier\x7d\x7dGeneralConfig.HookConfig.SentryConfig.Dsn) > 0 \x7b",
  ("\t\t\t\tsentryHook := log.NewSentryHook(\x7b\x7bqualifier\x7d\x7d" ++
    "GeneralConfig.HookConfig.SentryConfig.Dsn, \x7b\x7bqualifier\x7d\x7d" ++
    "GeneralConfig.CorrelationID)"),
  "\t\t\t\tlog.RegisterHook(&sentryHook)",
  "\t\t\t\x7d",
  "",
  "\t\t\treturn nil",
  "\t\t\x7d,",
  "\t\tRun: func(_ *cobra.Command, _ []string) \x7b",
  "\t\t\ttelemetryData := telemetry.CustomData\x7b\x7d",
  "\t\t\ttelemetryData.ErrorCode = \"1\"",
  "\t\t\thandler := func() \x7b",
  "\t\t\t\tconfig.RemoveVaultSecretFiles()",
  "\x7b\x7b#each output_resources\x7d\x7d",
  ("\t\t\t\t\x7b\x7bname\x7d\x7d.persist(\x7b\x7b@root.qualifier\x7d\x7d" ++
    "GeneralConfig.EnvRootPath, \"\x7b\x7bname\x7d\x7d\")"),
  "\x7b\x7b/each\x7d\x7d",
  "\t\t\t\ttelemetryData.Duration = fmt.Sprintf(\"%v\", time.Since(startTime).Milliseconds())",
  "\t\t\t\ttelemetryData.ErrorCategory = log.GetErrorCategory().String()",
  "\t\t\t\ttelemetry.Send(&telemetryData)",
  "\t\t\t\x7d",
  "\t\t\tlog.DeferExitHandler(handler)",
  "\t\t\tdefer handler()",
  "\t\t\ttelemetry.Initialize(\x7b\x7bqualifier\x7d\x7dGeneralConfig.NoTelemetry, STEP_NAME)",
  ("\t\t\t\x7b\x7bstep_name\x7d\x7d(stepConfig, &telemetryData" ++
    "\x7b\x7b#each output_resources\x7d\x7d, &\x7b\x7bname\x7d\x7d\x7b\x7b/each\x7d\x7d)"),
  "\t\t\ttelemetryData.ErrorCode = \"0\"",
  "\t\t\tlog.Entry().Info(\"SUCCESS\")",
  "\t\t\x7d,",
  "\t\x7d",
  "",
  "\t\x7b\x7bflags_func\x7d\x7d(\x7b\x7bcreate_cmd_var\x7d\x7d, &stepConfig)",
  "\treturn \x7b\x7bcreate_cmd_var\x7d\x7d",
  "\x7d",
  ""]

def flagLines : List String := [
  ("func \x7b\x7bflags_func\x7d\x7d(cmd *cobra.Command, stepConfig *" ++
    "\x7b\x7bstep_name\x7d\x7dOptions) \x7b"),
  "\x7b\x7b#each parameters\x7d\x7d",
  ("\tcmd.Flags().\x7b\x7bflagType type\x7d\x7d(&stepConfig." ++
    "\x7b\x7bgolangName name\x7d\x7d, \"\x7b\x7bname\x7d\x7d\", \x7b\x7bdefault\x7d\x7d, \"" ++
    "\x7b\x7bdescription\x7d\x7d\")"),
  "\x7b\x7b/each\x7d\x7d",
  "",
  "\x7b\x7b#each declared_parameters\x7d\x7d",
  "\x7b\x7b#if mandatory\x7d\x7d",
  "\tcmd.MarkFlagRequired(\"\x7b\x7bname\x7d\x7d\")",
  "\x7b\x7b/if\x7d\x7d",
  "\x7b\x7b/each\x7d\x7d",
  "\x7d",
  ""]

def parameterLines : List String := [
  "// retrieve step metadata",
  "func \x7b\x7bstep_name\x7d\x7dMetadata() config.StepData \x7b",
  "\tvar theMetaData = config.StepData\x7b",
  "\t\tMetadata: config.StepMetadata\x7b",
  "\t\t\tName:        \"\x7b\x7bstep_name\x7d\x7d\",",
  ("\t\t\tAliases:     []config.Alias\x7b \x7b\x7b#each aliases\x7d\x7d\x7bName: \"" ++
    "\x7b\x7bname\x7d\x7d\", Deprecated: \x7b\x7bdeprecated\x7d\x7d \x7d" ++
    "\x7b\x7b#unless @last\x7d\x7d, \x7b\x7b/unless\x7d\x7d\x7b\x7b/each\x7d\x7d \x7d,"),
  "\t\t\tDescription: \"\x7b\x7bshort\x7d\x7d\",",
  "\t\t\x7d,",
  "\t\tSpec: config.StepSpec\x7b",
  "\t\t\tInputs: config.StepInputs\x7b",
  "\t\t\t\tParameters: []config.StepParameters\x7b",
  "\x7b\x7b#each declared_parameters\x7d\x7d",
  "\t\t\t\t\t\x7b",
  "\t\t\t\t\t\tName:        \"\x7b\x7bname\x7d\x7d\",",
  ("\t\t\t\t\t\tResourceRef: []config.ResourceReference\x7b " ++
    "\x7b\x7b#each resource_ref\x7d\x7d\x7bName: \"\x7b\x7bname\x7d\x7d\"" ++
    "\x7b\x7b#if param\x7d\x7d, Param: \"\x7b\x7bparam\x7d\x7d\"\x7b\x7b/if\x7d\x7d" ++
    "\x7b\x7b#if paths\x7d\x7d, Paths: []string\x7b \x7b\x7b#each paths\x7d\x7d\"" ++
    "\x7b\x7bthis\x7d\x7d\"\x7b\x7b#unless @last\x7d\x7d, \x7b\x7b/unless\x7d\x7d" ++
    "\x7b\x7b/each\x7d\x7d \x7d\x7b\x7b/if\x7d\x7d\x7b\x7b#if type\x7d\x7d, Type: \"" ++
    "\x7b\x7btype\x7d\x7d\"\x7b\x7b/if\x7d\x7d \x7d\x7b\x7b#unless @last\x7d\x7d, " ++
    "\x7b\x7b/unless\x7d\x7d\x7b\x7b/each\x7d\x7d \x7d,"),
  ("\t\t\t\t\t\tScope:       []string\x7b \x7b\x7b#each scope\x7d\x7d\"" ++
    "\x7b\x7bthis\x7d\x7d\"\x7b\x7b#unless @last\x7d\x7d, \x7b\x7b/unless\x7d\x7d" ++
    "\x7b\x7b/each\x7d\x7d \x7d,"),
  "\t\t\t\t\t\tType:        \"\x7b\x7btype\x7d\x7d\",",
  "\t\t\t\t\t\tMandatory:   \x7b\x7bmandatory\x7d\x7d,",
  ("\t\t\t\t\t\tAliases:     []config.Alias\x7b \x7b\x7b#each aliases\x7d\x7d\x7bName: \"" ++
    "\x7b\x7bname\x7d\x7d\", Deprecated: \x7b\x7bdeprecated\x7d\x7d \x7d" ++
    "\x7b\x7b#unless @last\x7d\x7d, \x7b\x7b/unless\x7d\x7d\x7b\x7b/each\x7d\x7d \x7d,"),
  "\t\t\t\t\t\x7d,",
  "\x7b\x7b/each\x7d\x7d"]

def closingLines : List String := [
  "\t\t\t\t\x7d,",
  "\t\t\t\x7d,",
  "\x7b\x7b#if containers\x7d\x7d",
  "\t\t\tContainers: []config.Container\x7b",
  "\x7b\x7b#each containers\x7d\x7d",
  ("\t\t\t\t\x7b \x7b\x7b#if name\x7d\x7dName: \"\x7b\x7bname\x7d\x7d\", " ++
    "\x7b\x7b/if\x7d\x7d\x7b\x7b#if image\x7d\x7dImage: \"\x7b\x7bimage\x7d\x7d\", " ++
    "\x7b\x7b/if\x7d\x7d\x7b\x7b#if env\x7d\x7dEnvVars: []config.EnvVar\x7b " ++
    "\x7b\x7b#each env\x7d\x7d\x7bName: \"\x7b\x7bname\x7d\x7d\", Value: \"" ++
    "\x7b\x7bvalue\x7d\x7d\"\x7d\x7b\x7b#unless @last\x7d\x7d, \x7b\x7b/unless\x7d\x7d" ++
    "\x7b\x7b/each\x7d\x7d \x7d, \x7b\x7b/if\x7d\x7d\x7b\x7b#if workingDir\x7d\x7d" ++
    "WorkingDir: \"\x7b\x7bworkingDir\x7d\x7d\", \x7b\x7b/if\x7d\x7d" ++
    "\x7b\x7b#if options\x7d\x7dOptions: []config.Option\x7b \x7b\x7b#each options\x7d\x7d" ++
    "\x7bName: \"\x7b\x7bname\x7d\x7d\", Value: \"\x7b\x7bvalue\x7d\x7d\"\x7d" ++
    "\x7b\x7b#unless @last\x7d\x7d, \x7b\x7b/unless\x7d\x7d\x7b\x7b/each\x7d\x7d \x7d, " ++
    "\x7b\x7b/if\x7d\x7d\x7b\x7b#if conditions\x7d\x7dConditions: []config.Condition\x7b " ++
    "\x7b\x7b#each conditions\x7d\x7d\x7bConditionRef: \"\x7b\x7bconditionRef\x7d\x7d\", " ++
    "Params: []config.Param\x7b \x7b\x7b#each params\x7d\x7d\x7bName: \"" ++
    "\x7b\x7bname\x7d\x7d\", Value: \"\x7b\x7bvalue\x7d\x7d\"\x7d" ++
    "\x7b\x7b#unless @last\x7d\x7d, \x7b\x7b/unless\x7d\x7d\x7b\x7b/each\x7d\x7d \x7d \x7d" ++
    "\x7b\x7b#unless @last\x7d\x7d, \x7b\x7b/unless\x7d\x7d\x7b\x7b/each\x7d\x7d \x7d, " ++
    "\x7b\x7b/if\x7d\x7d \x7d,"),
  "\x7b\x7b/each\x7d\x7d",
  "\t\t\t\x7d,",
  "\x7b\x7b/if\x7d\x7d",
  "\x7b\x7b#if sidecars\x7d\x7d",
  "\t\t\tSidecars: []config.Container\x7b",
  "\x7b\x7b#each sidecars\x7d\x7d",
  ("\t\t\t\t\x7b \x7b\x7b#if name\x7d\x7dName: \"\x7b\x7bname\x7d\x7d\", " ++
    "\x7b\x7b/if\x7d\x7d\x7b\x7b#if image\x7d\x7dImage: \"\x7b\x7bimage\x7d\x7d\", " ++
    "\x7b\x7b/if\x7d\x7d\x7b\x7b#if env\x7d\x7dEnvVars: []config.EnvVar\x7b " ++
    "\x7b\x7b#each env\x7d\x7d\x7bName: \"\x7b\x7bname\x7d\x7d\", Value: \"" ++
    "\x7b\x7bvalue\x7d\x7d\"\x7d\x7b\x7b#unless @last\x7d\x7d, \x7b\x7b/unless\x7d\x7d" ++
    "\x7b\x7b/each\x7d\x7d \x7d, \x7b\x7b/if\x7d\x7d\x7b\x7b#if workingDir\x7d\x7d" ++
    "WorkingDir: \"\x7b\x7bworkingDir\x7d\x7d\", \x7b\x7b/if\x7d\x7d" ++
    "\x7b\x7b#if options\x7d\x7dOptions: []config.Option\x7b \x7b\x7b#each options\x7d\x7d" ++
    "\x7bName: \"\x7b\x7bname\x7d\x7d\", Value: \"\x7b\x7bvalue\x7d\x7d\"\x7d" ++
    "\x7b\x7b#unless @last\x7d\x7d, \x7b\x7b/unless\x7d\x7d\x7b\x7b/each\x7d\x7d \x7d, " ++
    "\x7b\x7b/if\x7d\x7d\x7b\x7b#if conditions\x7d\x7dConditions: []config.Condition\x7b " ++
    "\x7b\x7b#each conditions\x7d\x7d\x7bConditionRef: \"\x7b\x7bconditionRef\x7d\x7d\", " ++
    "Params: []config.Param\x7b \x7b\x7b#each params\x7d\x7d\x7bName: \"" ++
    "\x7b\x7bname\x7d\x7d\", Value: \"\x7b\x7bvalue\x7d\x7d\"\x7d" ++
    "\x7b\x7b#unless @last\x7d\x7d, \x7b\x7b/unless\x7d\x7d\x7b\x7b/each\x7d\x7d \x7d \x7d" ++
    "\x7b\x7b#unless @last\x7d\x7d, \x7b\x7b/unless\x7d\x7d\x7b\x7b/each\x7d\x7d \x7d, " ++
    "\x7b\x7b/if\x7d\x7d \x7d,"),
  "\x7b\x7b/each\x7d\x7d",
  "\t\t\t\x7d,",
  "\x7b\x7b/if\x7d\x7d",
  "\x7b\x7b#if outputs\x7d\x7d",
  "\t\t\tOutputs: config.StepOutputs\x7b",
  "\t\t\t\tResources: []config.StepResources\x7b",
  "\x7b\x7b#each outputs\x7d\x7d",
  "\t\t\t\t\t\x7b",
  "\t\t\t\t\t\tName: \"\x7b\x7bname\x7d\x7d\",",
  "\t\t\t\t\t\tType: \"\x7b\x7btype\x7d\x7d\",",
  "\x7b\x7b#if params\x7d\x7d",
  "\t\t\t\t\t\tParameters: []map[string]interface\x7b\x7d\x7b",
  "\x7b\x7b#each params\x7d\x7d",
  ("\t\t\t\t\t\t\t\x7b\"name\": \"\x7b\x7bname\x7d\x7d\"\x7b\x7b#if fields\x7d\x7d, " ++
    "\"fields\": []map[string]string\x7b \x7b\x7b#each fields\x7d\x7d\x7b\"name\": \"" ++
    "\x7b\x7bname\x7d\x7d\"\x7d\x7b\x7b#unless @last\x7d\x7d, \x7b\x7b/unless\x7d\x7d" ++
    "\x7b\x7b/each\x7d\x7d \x7d\x7b\x7b/if\x7d\x7d\x7b\x7b#if tags\x7d\x7d, \"tags\": " ++
    "[]map[string]string\x7b \x7b\x7b#each tags\x7d\x7d\x7b\"name\": \"\x7b\x7bname\x7d\x7d" ++
    "\"\x7d\x7b\x7b#unless @last\x7d\x7d, \x7b\x7b/unless\x7d\x7d\x7b\x7b/each\x7d\x7d \x7d" ++
    "\x7b\x7b/if\x7d\x7d \x7d,"),
  "\x7b\x7b/each\x7d\x7d",
  "\t\t\t\t\t\t\x7d,",
  "\x7b\x7b/if\x7d\x7d",
  "\t\t\t\t\t\x7d,",
  "\x7b\x7b/each\x7d\x7d",
  "\t\t\t\t\x7d,",
  "\t\t\t\x7d,",
  "\x7b\x7b/if\x7d\x7d",
  "\t\t\x7d,",
  "\t\x7d",
  "\treturn theMetaData",
  "\x7d"]

def written : List String :=
  openingLines ++ constructorLines ++ flagLines ++ parameterLines ++ closingLines

set_option maxRecDepth 20000 in
theorem spelling?_opening :
    spelling? (imports ++ options ++ definitions) = some (ofLines openingLines).toList := by
  simp (disch := rfl) only [
    openingLines, imports, options, definitions, field, apply, when, forEach, block, line,
    spelling?, spellAll?, spellAll?_append, Node.spell?, toList_ofLines, toList_tabs,
    toList_eq_spelt, String.toList_append, String.toList_join, List.flatMap_cons, List.flatMap_nil]
  cbv

set_option maxRecDepth 20000 in
theorem spelling?_constructor : spelling? constructor = some (ofLines constructorLines).toList := by
  simp (disch := rfl) only [
    constructorLines, constructor, constructorHead, preparation, execution, constructorTail, field,
    rootField, apply, applyItem, forEach, block, line, spelling?, spellAll?, spellAll?_append,
    Node.spell?, toList_ofLines, toList_tabs, toList_eq_spelt, String.toList_append,
    String.toList_join, List.flatMap_cons, List.flatMap_nil]
  cbv

theorem spelling?_flags : spelling? flags = some (ofLines flagLines).toList := by
  simp (disch := rfl) only [
    flagLines, flags, field, apply, when, forEach, spelling?, spellAll?, Node.spell?,
    toList_ofLines, toList_eq_spelt, String.toList_append, List.flatMap_cons, List.flatMap_nil]
  cbv

set_option maxRecDepth 20000 in
theorem spelling?_parameters :
    spelling? (accessorHead ++ parameterList) = some (ofLines parameterLines).toList := by
  simp (disch := rfl) only [
    parameterLines, accessorHead, parameterList, aliases, references, quotedItems, field, item,
    when, forEach, separator, block, line, spelling?, spellAll?, spellAll?_append, Node.spell?,
    toList_ofLines, toList_tabs, toList_eq_spelt, String.toList_append, String.toList_join,
    List.flatMap_cons, List.flatMap_nil]
  cbv

set_option maxRecDepth 20000 in
theorem spelling?_closing : spelling? accessorTail = some (ofLines closingLines).toList := by
  simp (disch := rfl) only [
    closingLines, accessorTail, containerList, container, namedValues, conditions, outputs,
    outputEntries, members, field, when, forEach, separator, block, line, spelling?, spellAll?,
    Node.spell?, toList_ofLines, toList_tabs, toList_eq_spelt, String.toList_append,
    String.toList_join, List.flatMap_cons, List.flatMap_nil]
  cbv

theorem spelling?_template : spelling? template = some (ofLines written).toList := by
  have hdeclarations := spelling?_append spelling?_opening spelling?_constructor
  have haccessor := spelling?_append spelling?_parameters spelling?_closing
  have hboth := spelling?_append (spelling?_append hdeclarations spelling?_flags) haccessor
  simpa [template, accessor, written] using hboth

end Command

namespace CommandTest

def written : List String := [
  "// Code generated by stepgen. DO NOT EDIT.",
  "",
  "package cmd",
  "",
  "import (",
  "\t\"testing\"",
  "",
  "\t\"github.com/stretchr/testify/assert\"",
  ")",
  "",
  "func Test\x7b\x7bcobra_cmd_func_name\x7d\x7d(t *testing.T) \x7b",
  "\tt.Parallel()",
  "",
  "\ttestCmd := \x7b\x7bcobra_cmd_func_name\x7d\x7d()",
  "",
  "\t// only high level testing performed - details are tested in step generation procedure",
  "\tassert.Equal(t, \"\x7b\x7bstep_name\x7d\x7d\", testCmd.Use, \"command name incorrect\")",
  "",
  "\x7d"]

theorem spelling?_template : spelling? template = some (ofLines written).toList := by
  simp (disch := rfl) only [
    written, template, field, block, line, spelling?, spellAll?, Node.spell?, toList_ofLines,
    toList_tabs, toList_eq_spelt, String.toList_append, String.toList_join, List.flatMap_cons,
    List.flatMap_nil]
  cbv

end CommandTest

end StepCommand.Source
