import StepCommand.Template.Build

namespace StepCommand.Source.Metric

open Template

def declaration : Template := [
  "type ", field "struct_name", " struct \x7b\n",
  forEach "measurements" [
    "\t", field "name", " struct \x7b\n",
    block [line 2 r#"fields struct {"#],
    forEach "fields" ["\t\t\t", field "field", " ", field "type", "\n"],
    block [
      line 2 r#"}"#,
      line 2 r#"tags struct {"#],
    forEach "tags" ["\t\t\t", field "field", " string\n"],
    block [
      line 2 r#"}"#,
      line 1 r#"}"#]],
  "\x7d\n\n"]

def storing : Template := [
  "func (i *", field "struct_name", ") persist(path, resourceName string) \x7b\n",
  block [
    line 1 r#"measurementContent := []struct {"#,
    line 2 r#"measurement string"#,
    line 2 r#"valType     string"#,
    line 2 r#"name        string"#,
    line 2 r#"value       interface{}"#,
    line 1 r#"}{"#],
  forEach "entries" [
    "\t\t\x7bvalType: config.", field "val_type", ", measurement: \"", field "measurement",
    "\", name: \"", field "name", "\", value: i.", field "accessor", " \x7d,\n"],
  block [
    line 1 r#"}"#,
    line 0 "",
    line 1 r#"errCount := 0"#,
    line 1 r#"for _, metric := range measurementContent {"#,
    line 2 (r#"err := piperenv.SetResourceParameter(path, resourceName, filepath.Join("# ++
      r#"metric.measurement, fmt.Sprintf("%vs", metric.valType), metric.name), metric.value)"#),
    line 2 r#"if err != nil {"#,
    line 3 r#"log.Entry().WithError(err).Error("Error persisting influx environment.")"#,
    line 3 r#"errCount++"#,
    line 2 r#"}"#,
    line 1 r#"}"#,
    line 1 r#"if errCount > 0 {"#,
    line 2 r#"log.Entry().Fatal("failed to persist Influx environment")"#,
    line 1 r#"}"#],
  "\x7d"]

def template : Template := declaration ++ storing

end StepCommand.Source.Metric
