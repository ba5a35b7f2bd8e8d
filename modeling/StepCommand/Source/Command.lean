import StepCommand.Template.Build

namespace StepCommand.Source.Command

open Template

-- Imports that not every command needs stand under a condition.
def imports : Template := [
  block [
    line 0 r#"// Code generated by stepgen. DO NOT EDIT."#,
    line 0 "",
    line 0 r#"package cmd"#,
    line 0 "",
    line 0 r#"import ("#,
    line 1 r#""fmt""#],
  when "os_import" [block [line 1 r#""os""#]],
  when "output_resources" [block [line 1 r#""path/filepath""#]],
  block [
    line 1 r#""time""#,
    line 0 ""],
  when "export_prefix" ["\t", field "export_prefix", " \"github.com/SAP/jenkins-library/cmd\"\n"],
  block [
    line 1 r#""github.com/SAP/jenkins-library/pkg/config""#,
    line 1 r#""github.com/SAP/jenkins-library/pkg/log""#],
  when "output_resources" [block [line 1 r#""github.com/SAP/jenkins-library/pkg/piperenv""#]],
  block [
    line 1 r#""github.com/SAP/jenkins-library/pkg/telemetry""#,
    line 1 r#""github.com/spf13/cobra""#,
    line 0 r#")"#,
    line 0 ""]]

def options : Template := [
  "type ", field "step_name", "Options struct \x7b\n",
  forEach "parameters" [
    "\t", apply "golangName" "name", " ", field "go_type", " `json:\"", field "name",
    ",omitempty\"`\n"],
  "\x7d\n"]

def definitions : Template := [forEach "output_resources" ["\n", field "def", "\n"]]

def preparation : Template := [
  block [
    line 2 r#"PreRunE: func(cmd *cobra.Command, _ []string) error {"#,
    line 3 r#"startTime = time.Now()"#,
    line 3 r#"log.SetStepName(STEP_NAME)"#],
  "\t\t\tlog.SetVerbose(", field "qualifier", "GeneralConfig.Verbose)\n\n",
  "\t\t\tfatalHook := &log.FatalHook\x7bCorrelationID: ", field "qualifier",
  "GeneralConfig.CorrelationID\x7d\n",
  block [
    line 3 r#"log.RegisterHook(fatalHook)"#,
    line 0 ""],
  "\t\t\terr := ", field "qualifier",
  "PrepareConfig(cmd, &metadata, STEP_NAME, &stepConfig, config.OpenPiperFile)\n",
  block [
    line 3 r#"if err != nil {"#,
    line 4 r#"log.SetErrorCategory(log.ErrorConfiguration)"#,
    line 4 r#"return err"#,
    line 3 r#"}"#],
  forEach "secrets" ["\t\t\tlog.RegisterSecret(stepConfig.", applyItem "golangName", ")\n"],
  "\n\t\t\tif len(", field "qualifier", "GeneralConfig.HookConfig.SentryConfig.Dsn) > 0 \x7b\n",
  "\t\t\t\tsentryHook := log.NewSentryHook(", field "qualifier",
  "GeneralConfig.HookConfig.SentryConfig.Dsn, ", field "qualifier",
  "GeneralConfig.CorrelationID)\n",
  block [
    line 4 r#"log.RegisterHook(&sentryHook)"#,
    line 3 r#"}"#,
    line 0 "",
    line 3 r#"return nil"#,
    line 2 r#"},"#]]

def execution : Template := [
  block [
    line 2 r#"Run: func(_ *cobra.Command, _ []string) {"#,
    line 3 r#"telemetryData := telemetry.CustomData{}"#,
    line 3 r#"telemetryData.ErrorCode = "1""#,
    line 3 r#"handler := func() {"#,
    line 4 r#"config.RemoveVaultSecretFiles()"#],
  forEach "output_resources" [
    "\t\t\t\t", field "name", ".persist(", rootField "qualifier", "GeneralConfig.EnvRootPath, \"",
    field "name", "\")\n"],
  block [
    line 4 r#"telemetryData.Duration = fmt.Sprintf("%v", time.Since(startTime).Milliseconds())"#,
    line 4 r#"telemetryData.ErrorCategory = log.GetErrorCategory().String()"#,
    line 4 r#"telemetry.Send(&telemetryData)"#,
    line 3 r#"}"#,
    line 3 r#"log.DeferExitHandler(handler)"#,
    line 3 r#"defer handler()"#],
  "\t\t\ttelemetry.Initialize(", field "qualifier", "GeneralConfig.NoTelemetry, STEP_NAME)\n",
  "\t\t\t", field "step_name", "(stepConfig, &telemetryData",
  forEach "output_resources" [", &", field "name"], ")\n",
  block [
    line 3 r#"telemetryData.ErrorCode = "0""#,
    line 3 r#"log.Entry().Info("SUCCESS")"#,
    line 2 r#"},"#]]

def constructorHead : Template := [
  "\n// ", field "cobra_cmd_func_name", " ", field "short", "\n",
  "func ", field "cobra_cmd_func_name", "() *cobra.Command \x7b\n",
  "\tconst STEP_NAME = \"", field "step_name", "\"\n\n",
  "\tmetadata := ", field "step_name", "Metadata()\n",
  "\tvar stepConfig ", field "step_name", "Options\n",
  "\tvar startTime time.Time\n",
  forEach "output_resources" ["\tvar ", field "name", " ", field "object_name", "\n"],
  "\n\tvar ", field "create_cmd_var", " = &cobra.Command\x7b\n",
  "\t\tUse:   STEP_NAME,\n",
  "\t\tShort: \"", field "short", "\",\n",
  "\t\tLong:  `", apply "longName" "long", "`,\n"]

def constructorTail : Template := [
  "\t\x7d\n\n",
  "\t", field "flags_func", "(", field "create_cmd_var", ", &stepConfig)\n",
  "\treturn ", field "create_cmd_var", "\n",
  "\x7d\n\n"]

def constructor : Template := constructorHead ++ preparation ++ execution ++ constructorTail

def flags : Template := [
  "func ", field "flags_func", "(cmd *cobra.Command, stepConfig *", field "step_name",
  "Options) \x7b\n",
  forEach "parameters" [
    "\tcmd.Flags().", apply "flagType" "type", "(&stepConfig.", apply "golangName" "name", ", \"",
    field "name", "\", ", field "default", ", \"", field "description", "\")\n"],
  "\n",
  forEach "declared_parameters" [
    when "mandatory" ["\tcmd.MarkFlagRequired(\"", field "name", "\")\n"]],
  "\x7d\n\n"]

def aliases : Node := forEach "aliases" [
  "\x7bName: \"", field "name", "\", Deprecated: ", field "deprecated", " \x7d", separator ", "]

def quotedItems (name : String) : Node := forEach name ["\"", item, "\"", separator ", "]

def namedValues (name : String) : Node := forEach name [
  "\x7bName: \"", field "name", "\", Value: \"", field "value", "\"\x7d", separator ", "]

def references : Node := forEach "resource_ref" [
  "\x7bName: \"", field "name", "\"",
  when "param" [", Param: \"", field "param", "\""],
  when "paths" [", Paths: []string\x7b ", quotedItems "paths", " \x7d"],
  when "type" [", Type: \"", field "type", "\""],
  " \x7d", separator ", "]

def parameterList : Template := [
  forEach "declared_parameters" [
    "\t\t\t\t\t\x7b\n",
    "\t\t\t\t\t\tName:        \"", field "name", "\",\n",
    "\t\t\t\t\t\tResourceRef: []config.ResourceReference\x7b ", references, " \x7d,\n",
    "\t\t\t\t\t\tScope:       []string\x7b ", quotedItems "scope", " \x7d,\n",
    "\t\t\t\t\t\tType:        \"", field "type", "\",\n",
    "\t\t\t\t\t\tMandatory:   ", field "mandatory", ",\n",
    "\t\t\t\t\t\tAliases:     []config.Alias\x7b ", aliases, " \x7d,\n",
    "\t\t\t\t\t\x7d,\n"]]

def conditions : Node := forEach "conditions" [
  "\x7bConditionRef: \"", field "conditionRef", "\", Params: []config.Param\x7b ",
  namedValues "params", " \x7d \x7d", separator ", "]

def container : Template := [
  "\t\t\t\t\x7b ",
  when "name" ["Name: \"", field "name", "\", "],
  when "image" ["Image: \"", field "image", "\", "],
  when "env" ["EnvVars: []config.EnvVar\x7b ", namedValues "env", " \x7d, "],
  when "workingDir" ["WorkingDir: \"", field "workingDir", "\", "],
  when "options" ["Options: []config.Option\x7b ", namedValues "options", " \x7d, "],
  when "conditions" ["Conditions: []config.Condition\x7b ", conditions, " \x7d, "],
  " \x7d,\n"]

def containerList (name heading : String) : Node := when name [
  .text ("\t\t\t" ++ heading ++ ": []config.Container\x7b\n"),
  forEach name container,
  "\t\t\t\x7d,\n"]

def members (name : String) : Node := forEach name [
  "\x7b\"name\": \"", field "name", "\"\x7d", separator ", "]

def outputEntries : Node := when "params" [
  "\t\t\t\t\t\tParameters: []map[string]interface\x7b\x7d\x7b\n",
  forEach "params" [
    "\t\t\t\t\t\t\t\x7b\"name\": \"", field "name", "\"",
    when "fields" [", \"fields\": []map[string]string\x7b ", members "fields", " \x7d"],
    when "tags" [", \"tags\": []map[string]string\x7b ", members "tags", " \x7d"],
    " \x7d,\n"],
  "\t\t\t\t\t\t\x7d,\n"]

def outputs : Node := when "outputs" [
  block [
    line 3 r#"Outputs: config.StepOutputs{"#,
    line 4 r#"Resources: []config.StepResources{"#],
  forEach "outputs" [
    "\t\t\t\t\t\x7b\n",
    "\t\t\t\t\t\tName: \"", field "name", "\",\n",
    "\t\t\t\t\t\tType: \"", field "type", "\",\n",
    outputEntries,
    "\t\t\t\t\t\x7d,\n"],
  block [
    line 4 r#"},"#,
    line 3 r#"},"#]]

def accessorHead : Template := [
  "// retrieve step metadata\n",
  "func ", field "step_name", "Metadata() config.StepData \x7b\n",
  block [
    line 1 r#"var theMetaData = config.StepData{"#,
    line 2 r#"Metadata: config.StepMetadata{"#],
  "\t\t\tName:        \"", field "step_name", "\",\n",
  "\t\t\tAliases:     []config.Alias\x7b ", aliases, " \x7d,\n",
  "\t\t\tDescription: \"", field "short", "\",\n",
  block [
    line 2 r#"},"#,
    line 2 r#"Spec: config.StepSpec{"#,
    line 3 r#"Inputs: config.StepInputs{"#,
    line 4 r#"Parameters: []config.StepParameters{"#]]

def accessorTail : Template := [
  block [
    line 4 r#"},"#,
    line 3 r#"},"#],
  containerList "containers" "Containers",
  containerList "sidecars" "Sidecars",
  outputs,
  block [
    line 2 r#"},"#,
    line 1 r#"}"#,
    line 1 r#"return theMetaData"#,
    line 0 r#"}"#]]

def accessor : Template := accessorHead ++ parameterList ++ accessorTail

def template : Template :=
  imports ++ options ++ definitions ++ constructor ++ flags ++ accessor

end StepCommand.Source.Command
