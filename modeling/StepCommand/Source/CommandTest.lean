import StepCommand.Template.Build

namespace StepCommand.Source.CommandTest

open Template

def template : Template := [
  block [
    line 0 r#"// Code generated by stepgen. DO NOT EDIT."#,
    line 0 "",
    line 0 r#"package cmd"#,
    line 0 "",
    line 0 r#"import ("#,
    line 1 r#""testing""#,
    line 0 "",
    line 1 r#""github.com/stretchr/testify/assert""#,
    line 0 r#")"#,
    line 0 ""],
  "func Test", field "cobra_cmd_func_name", "(t *testing.T) \x7b\n",
  block [
    line 1 r#"t.Parallel()"#,
    line 0 ""],
  "\ttestCmd := ", field "cobra_cmd_func_name", "()\n\n",
  block [
    line 1 ("// only high level testing performed - " ++
      "details are tested in step generation procedure")],
  "\tassert.Equal(t, \"", field "step_name", "\", testCmd.Use, \"command name incorrect\")\n",
  block [
    line 0 "",
    line 0 r#"}"#]]

end StepCommand.Source.CommandTest
