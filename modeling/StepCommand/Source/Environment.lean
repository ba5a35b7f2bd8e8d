import StepCommand.Template.Build

namespace StepCommand.Source.Environment

open Template

def declaration : Template := [
  "type ", field "struct_name", " struct \x7b\n",
  forEach "uncategorized" ["\t", field "field", " ", field "type", "\n"],
  forEach "categories" [
    "\t", field "name", " struct \x7b\n",
    forEach "parameters" ["\t\t", field "field", " ", field "type", "\n"],
    "\t\x7d\n"],
  "\x7d\n\n"]

def storing : Template := [
  "func (p *", field "struct_name", ") persist(path, resourceName string) \x7b\n",
  block [
    line 1 r#"content := []struct {"#,
    line 2 r#"category string"#,
    line 2 r#"name     string"#,
    line 2 r#"value    interface{}"#,
    line 1 r#"}{"#],
  forEach "parameters" [
    "\t\t\x7bcategory: \"", field "category", "\", name: \"", field "name", "\", value: p.",
    field "accessor", " \x7d,\n"],
  block [
    line 1 r#"}"#,
    line 0 "",
    line 1 r#"errCount := 0"#,
    line 1 r#"for _, param := range content {"#,
    line 2 (r#"err := piperenv.SetResourceParameter(path, resourceName, "# ++
      r#"filepath.Join(param.category, param.name), param.value)"#),
    line 2 r#"if err != nil {"#,
    line 3 r#"log.Entry().WithError(err).Error("Error persisting piper environment.")"#,
    line 3 r#"errCount++"#,
    line 2 r#"}"#,
    line 1 r#"}"#,
    line 1 r#"if errCount > 0 {"#,
    line 2 r#"log.Entry().Fatal("failed to persist Piper environment")"#,
    line 1 r#"}"#],
  "\x7d"]

def template : Template := declaration ++ storing

end StepCommand.Source.Environment
