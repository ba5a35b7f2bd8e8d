import StepCommand.Proofs.Template.Spelled
import StepCommand.Source.Implementation
import StepCommand.Source.ImplementationTest

namespace StepCommand.Source

open Template
open Text (ofLines toList_ofLines)

namespace Implementation

def written : List String := [
  "package cmd",
  "",
  "import (",
  "\t\"fmt\"",
  "",
  "\t\"github.com/SAP/jenkins-library/pkg/command\"",
  "\t\"github.com/SAP/jenkins-library/pkg/log\"",
  "\t\"github.com/SAP/jenkins-library/pkg/piperutils\"",
  "\t\"github.com/SAP/jenkins-library/pkg/telemetry\"",
  ")",
  "",
  "type \x7b\x7bstep_name\x7d\x7dUtils interface \x7b",
  "\tcommand.ExecRunner",
  "",
  "\tFileExists(filename string) (bool, error)",
  "",
  "\t// Add more methods here, or embed additional interfaces, or remove/replace as required.",
  ("\t// The \x7b\x7bstep_name\x7d\x7dUtils interface should be descriptive of your " ++
    "runtime dependencies,"),
  "\t// i.e. include everything you need to be able to mock in tests.",
  ("\t// Unit tests shall be executable in parallel (not depend on global state), and " ++
    "don't (re-)test dependencies."),
  "\x7d",
  "",
  "type \x7b\x7bstep_name\x7d\x7dUtilsBundle struct \x7b",
  "\t*command.Command",
  "\t*piperutils.Files",
  "",
  ("\t// Embed more structs as necessary to implement methods or interfaces you add to " ++
    "\x7b\x7bstep_name\x7d\x7dUtils."),
  "\t// Structs embedded in this way must each have a unique set of methods attached.",
  "\t// If there is no struct which implements the method you need, attach the method to",
  "\t// \x7b\x7bstep_name\x7d\x7dUtilsBundle and forward to the implementation of the dependency.",
  "\x7d",
  "",
  "func new\x7b\x7btitle step_name\x7d\x7dUtils() \x7b\x7bstep_name\x7d\x7dUtils \x7b",
  "\tutils := \x7b\x7bstep_name\x7d\x7dUtilsBundle\x7b",
  "\t\tCommand: &command.Command\x7b\x7d,",
  "\t\tFiles:   &piperutils.Files\x7b\x7d,",
  "\t\x7d",
  "\t// Reroute command output to logging framework",
  "\tutils.Stdout(log.Writer())",
  "\tutils.Stderr(log.Writer())",
  "\treturn &utils",
  "\x7d",
  "",
  ("func \x7b\x7bstep_name\x7d\x7d(config \x7b\x7bstep_name\x7d\x7dOptions, telemetryData " ++
    "*telemetry.CustomData\x7b\x7b#each output_resources\x7d\x7d, \x7b\x7bname\x7d\x7d *" ++
    "\x7b\x7bobject_name\x7d\x7d\x7b\x7b/each\x7d\x7d) \x7b"),
  "\t// Utils can be used wherever the command.ExecRunner interface is expected.",
  "\t// It can also be used for example as a mavenExecRunner.",
  "\tutils := new\x7b\x7btitle step_name\x7d\x7dUtils()",
  "",
  ("\t// Error situations should be bubbled up until they reach the line below which will " ++
    "then stop execution"),
  "\t// through the log.Entry().Fatal() call leading to an os.Exit(1) in the end.",
  ("\terr := run\x7b\x7btitle step_name\x7d\x7d(&config, telemetryData, utils" ++
    "\x7b\x7b#each output_resources\x7d\x7d, \x7b\x7bname\x7d\x7d\x7b\x7b/each\x7d\x7d)"),
  "\tif err != nil \x7b",
  "\t\tlog.Entry().WithError(err).Fatal(\"step execution failed\")",
  "\t\x7d",
  "\x7d",
  "",
  ("func run\x7b\x7btitle step_name\x7d\x7d(config *\x7b\x7bstep_name\x7d\x7dOptions, " ++
    "telemetryData *telemetry.CustomData, utils \x7b\x7bstep_name\x7d\x7dUtils" ++
    "\x7b\x7b#each output_resources\x7d\x7d, \x7b\x7bname\x7d\x7d *" ++
    "\x7b\x7bobject_name\x7d\x7d\x7b\x7b/each\x7d\x7d) error \x7b"),
  ("\tlog.Entry().WithField(\"LogField\", \"Log field content\").Info(\"This is just a " ++
    "demo for a simple step.\")"),
  "",
  "\t// Example of calling methods from external dependencies directly on utils:",
  "\texists, err := utils.FileExists(\"file.txt\")",
  "\tif err != nil \x7b",
  "\t\t// It is good practice to set an error category.",
  "\t\t// Most likely you want to do this at the place where enough context is known.",
  "\t\tlog.SetErrorCategory(log.ErrorConfiguration)",
  ("\t\t// Always wrap non-descriptive errors to enrich them with context for when they " ++
    "appear in the log:"),
  "\t\treturn fmt.Errorf(\"failed to check for important file: %w\", err)",
  "\t\x7d",
  "\tif !exists \x7b",
  "\t\tlog.SetErrorCategory(log.ErrorConfiguration)",
  "\t\treturn fmt.Errorf(\"cannot run without important file\")",
  "\t\x7d",
  "",
  "\treturn nil",
  "\x7d"]

set_option maxRecDepth 20000 in
theorem spelling?_template : spelling? template = some (ofLines written).toList := by
  simp (disch := rfl) only [
    written, template, header, utilities, bundle, bundleConstructor, stepFunction, runFunction,
    resourceParameters, field, apply, forEach, block, line, spelling?, spellAll?, spellAll?_append,
    Node.spell?, toList_ofLines, toList_tabs, toList_eq_spelt, String.toList_append,
    String.toList_join, List.flatMap_cons, List.flatMap_nil]
  cbv

end Implementation

namespace ImplementationTest

def written : List String := [
  "package cmd",
  "",
  "import (",
  "\t\"testing\"",
  "",
  "\t\"github.com/SAP/jenkins-library/pkg/mock\"",
  "\t\"github.com/stretchr/testify/assert\"",
  ")",
  "",
  "type \x7b\x7bstep_name\x7d\x7dMockUtils struct \x7b",
  "\t*mock.ExecMockRunner",
  "\t*mock.FilesMock",
  "\x7d",
  "",
  "func new\x7b\x7btitle step_name\x7d\x7dTestsUtils() \x7b\x7bstep_name\x7d\x7dMockUtils \x7b",
  "\tutils := \x7b\x7bstep_name\x7d\x7dMockUtils\x7b",
  "\t\tExecMockRunner: &mock.ExecMockRunner\x7b\x7d,",
  "\t\tFilesMock:      &mock.FilesMock\x7b\x7d,",
  "\t\x7d",
  "\treturn utils",
  "\x7d",
  "",
  "func TestRun\x7b\x7btitle step_name\x7d\x7d(t *testing.T) \x7b",
  "\tt.Parallel()",
  "",
  "\tt.Run(\"happy path\", func(t *testing.T) \x7b",
  "\t\tt.Parallel()",
  "\t\t// init",
  "\t\tconfig := \x7b\x7bstep_name\x7d\x7dOptions\x7b\x7d",
  "",
  "\t\tutils := new\x7b\x7btitle step_name\x7d\x7dTestsUtils()",
  "\t\tutils.AddFile(\"file.txt\", []byte(\"dummy content\"))",
  "",
  "\t\t// test",
  ("\t\terr := run\x7b\x7btitle step_name\x7d\x7d(&config, nil, utils" ++
    "\x7b\x7b#each output_resources\x7d\x7d, &\x7b\x7bobject_name\x7d\x7d\x7b\x7d" ++
    "\x7b\x7b/each\x7d\x7d)"),
  "",
  "\t\t// assert",
  "\t\tassert.NoError(t, err)",
  "\t\x7d)",
  "",
  "\tt.Run(\"error path\", func(t *testing.T) \x7b",
  "\t\tt.Parallel()",
  "\t\t// init",
  "\t\tconfig := \x7b\x7bstep_name\x7d\x7dOptions\x7b\x7d",
  "",
  "\t\tutils := new\x7b\x7btitle step_name\x7d\x7dTestsUtils()",
  "",
  "\t\t// test",
  ("\t\terr := run\x7b\x7btitle step_name\x7d\x7d(&config, nil, utils" ++
    "\x7b\x7b#each output_resources\x7d\x7d, &\x7b\x7bobject_name\x7d\x7d\x7b\x7d" ++
    "\x7b\x7b/each\x7d\x7d)"),
  "",
  "\t\t// assert",
  "\t\tassert.EqualError(t, err, \"cannot run without important file\")",
  "\t\x7d)",
  "\x7d"]

set_option maxRecDepth 20000 in
theorem spelling?_template : spelling? template = some (ofLines written).toList := by
  simp (disch := rfl) only [
    written, template, mock, opening, setUp, happyPath, call, betweenPaths, noFile, closing, field,
    apply, forEach, block, line, spelling?, spellAll?, spellAll?_append, Node.spell?,
    toList_ofLines, toList_tabs, toList_eq_spelt, String.toList_append, String.toList_join,
    List.flatMap_cons, List.flatMap_nil]
  cbv

end ImplementationTest

end StepCommand.Source
