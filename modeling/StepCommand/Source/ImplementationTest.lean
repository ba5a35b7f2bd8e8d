import StepCommand.Template.Build

namespace StepCommand.Source.ImplementationTest

open Template

def mock : Template := [
  block [
    line 0 r#"package cmd"#,
    line 0 "",
    line 0 r#"import ("#,
    line 1 r#""testing""#,
    line 0 "",
    line 1 r#""github.com/SAP/jenkins-library/pkg/mock""#,
    line 1 r#""github.com/stretchr/testify/assert""#,
    line 0 r#")"#,
    line 0 ""],
  "type ", field "step_name", "MockUtils struct \x7b\n",
  block [
    line 1 r#"*mock.ExecMockRunner"#,
    line 1 r#"*mock.FilesMock"#,
    line 0 r#"}"#,
    line 0 ""],
  "func new", apply "title" "step_name", "TestsUtils() ", field "step_name", "MockUtils \x7b\n",
  "\tutils := ", field "step_name", "MockUtils\x7b\n",
  block [
    line 2 r#"ExecMockRunner: &mock.ExecMockRunner{},"#,
    line 2 r#"FilesMock:      &mock.FilesMock{},"#,
    line 1 r#"}"#,
    line 1 r#"return utils"#,
    line 0 r#"}"#,
    line 0 ""]]

-- The call under test, with an empty value for each output resource.
def call : Template := [
  block [line 2 "// test"],
  "\t\terr := run", apply "title" "step_name", "(&config, nil, utils",
  forEach "output_resources" [", &", field "object_name", "\x7b\x7d"], ")\n\n",
  block [line 2 "// assert"]]

def setUp : Template := [
  block [
    line 2 r#"t.Parallel()"#,
    line 2 "// init"],
  "\t\tconfig := ", field "step_name", "Options\x7b\x7d\n\n",
  "\t\tutils := new", apply "title" "step_name", "TestsUtils()\n"]

def opening : Template := [
  "func TestRun", apply "title" "step_name", "(t *testing.T) \x7b\n",
  block [
    line 1 r#"t.Parallel()"#,
    line 0 "",
    line 1 r#"t.Run("happy path", func(t *testing.T) {"#]]

def happyPath : Template := [
  block [
    line 2 r#"utils.AddFile("file.txt", []byte("dummy content"))"#,
    line 0 ""]]

def betweenPaths : Template := [
  block [
    line 2 r#"assert.NoError(t, err)"#,
    line 1 r#"})"#,
    line 0 "",
    line 1 r#"t.Run("error path", func(t *testing.T) {"#]]

def noFile : Template := ["\n"]

def closing : Template := [
  block [
    line 2 r#"assert.EqualError(t, err, "cannot run without important file")"#,
    line 1 r#"})"#,
    line 0 r#"}"#]]

def template : Template :=
  mock ++ opening ++ setUp ++ happyPath ++ call ++ betweenPaths ++ setUp ++ noFile ++ call ++
    closing

end StepCommand.Source.ImplementationTest
