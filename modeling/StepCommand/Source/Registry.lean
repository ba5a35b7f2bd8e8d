import StepCommand.Template.Build

namespace StepCommand.Source.Registry

open Template

def fileName : String := "metadata_generated.go"

def template : Template := [
  block [
    line 0 r#"// Code generated by stepgen. DO NOT EDIT."#,
    line 0 "",
    line 0 r#"package cmd"#,
    line 0 "",
    line 0 r#"import "github.com/SAP/jenkins-library/pkg/config""#,
    line 0 "",
    line 0 ("// GetAllStepMetadata return a map with all the step metadata mapped to their " ++
      "stepName"),
    line 0 r#"func GetAllStepMetadata() map[string]config.StepData {"#,
    line 1 r#"return map[string]config.StepData{"#],
  forEach "steps" ["\t\t\"", item, "\": ", item, "Metadata(),\n"],
  block [
    line 1 r#"}"#,
    line 0 r#"}"#]]

-- The record that the list is filled from.
def record (steps : List String) : Value := .object [("steps", .list (steps.map .text))]

end StepCommand.Source.Registry
