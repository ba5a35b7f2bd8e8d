import StepCommand.Template.Build

namespace StepCommand.Source.Implementation

open Template

def header : Template := [
  block [
    line 0 r#"package cmd"#,
    line 0 "",
    line 0 r#"import ("#,
    line 1 r#""fmt""#,
    line 0 "",
    line 1 r#""github.com/SAP/jenkins-library/pkg/command""#,
    line 1 r#""github.com/SAP/jenkins-library/pkg/log""#,
    line 1 r#""github.com/SAP/jenkins-library/pkg/piperutils""#,
    line 1 r#""github.com/SAP/jenkins-library/pkg/telemetry""#,
    line 0 r#")"#,
    line 0 ""]]

def utilities : Template := [
  "type ", field "step_name", "Utils interface \x7b\n",
  block [
    line 1 r#"command.ExecRunner"#,
    line 0 "",
    line 1 r#"FileExists(filename string) (bool, error)"#,
    line 0 "",
    line 1 ("// Add more methods here, or embed additional interfaces, " ++
      "or remove/replace as required.")],
  "\t// The ", field "step_name",
  "Utils interface should be descriptive of your runtime dependencies,\n",
  block [
    line 1 "// i.e. include everything you need to be able to mock in tests.",
    line 1 ("// Unit tests shall be executable in parallel (not depend on global state), " ++
      "and don't (re-)test dependencies."),
    line 0 r#"}"#,
    line 0 ""]]

def bundle : Template := [
  "type ", field "step_name", "UtilsBundle struct \x7b\n",
  block [
    line 1 r#"*command.Command"#,
    line 1 r#"*piperutils.Files"#,
    line 0 ""],
  "\t// Embed more structs as necessary to implement methods or interfaces you add to ",
  field "step_name", "Utils.\n",
  block [
    line 1 "// Structs embedded in this way must each have a unique set of methods attached.",
    line 1 "// If there is no struct which implements the method you need, attach the method to"],
  "\t// ", field "step_name", "UtilsBundle and forward to the implementation of the dependency.\n",
  block [
    line 0 r#"}"#,
    line 0 ""]]

def bundleConstructor : Template := [
  "func new", apply "title" "step_name", "Utils() ", field "step_name", "Utils \x7b\n",
  "\tutils := ", field "step_name", "UtilsBundle\x7b\n",
  block [
    line 2 r#"Command: &command.Command{},"#,
    line 2 r#"Files:   &piperutils.Files{},"#,
    line 1 r#"}"#,
    line 1 "// Reroute command output to logging framework",
    line 1 r#"utils.Stdout(log.Writer())"#,
    line 1 r#"utils.Stderr(log.Writer())"#,
    line 1 r#"return &utils"#,
    line 0 r#"}"#,
    line 0 ""]]

-- A parameter for each output resource.
def resourceParameters : Node :=
  forEach "output_resources" [", ", field "name", " *", field "object_name"]

def stepFunction : Template := [
  "func ", field "step_name", "(config ", field "step_name",
  "Options, telemetryData *telemetry.CustomData", resourceParameters, ") \x7b\n",
  block [
    line 1 "// Utils can be used wherever the command.ExecRunner interface is expected.",
    line 1 "// It can also be used for example as a mavenExecRunner."],
  "\tutils := new", apply "title" "step_name", "Utils()\n\n",
  block [
    line 1 ("// Error situations should be bubbled up until they reach the line below " ++
      "which will then stop execution"),
    line 1 "// through the log.Entry().Fatal() call leading to an os.Exit(1) in the end."],
  "\terr := run", apply "title" "step_name", "(&config, telemetryData, utils",
  forEach "output_resources" [", ", field "name"], ")\n",
  block [
    line 1 r#"if err != nil {"#,
    line 2 r#"log.Entry().WithError(err).Fatal("step execution failed")"#,
    line 1 r#"}"#,
    line 0 r#"}"#,
    line 0 ""]]

def runFunction : Template := [
  "func run", apply "title" "step_name", "(config *", field "step_name",
  "Options, telemetryData *telemetry.CustomData, utils ", field "step_name", "Utils",
  resourceParameters, ") error \x7b\n",
  block [
    line 1 (r#"log.Entry().WithField("LogField", "Log field content")"# ++
      r#".Info("This is just a demo for a simple step.")"#),
    line 0 "",
    line 1 "// Example of calling methods from external dependencies directly on utils:",
    line 1 r#"exists, err := utils.FileExists("file.txt")"#,
    line 1 r#"if err != nil {"#,
    line 2 "// It is good practice to set an error category.",
    line 2 ("// Most likely you want to do this at the place " ++
      "where enough context is known."),
    line 2 r#"log.SetErrorCategory(log.ErrorConfiguration)"#,
    line 2 ("// Always wrap non-descriptive errors to enrich them with context " ++
      "for when they appear in the log:"),
    line 2 r#"return fmt.Errorf("failed to check for important file: %w", err)"#,
    line 1 r#"}"#,
    line 1 r#"if !exists {"#,
    line 2 r#"log.SetErrorCategory(log.ErrorConfiguration)"#,
    line 2 r#"return fmt.Errorf("cannot run without important file")"#,
    line 1 r#"}"#,
    line 0 "",
    line 1 r#"return nil"#,
    line 0 r#"}"#]]

def template : Template :=
  header ++ utilities ++ bundle ++ bundleConstructor ++ stepFunction ++ runFunction

end StepCommand.Source.Implementation
