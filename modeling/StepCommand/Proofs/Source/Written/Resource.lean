import StepCommand.Proofs.Template.Spelled
import StepCommand.Source.Environment
import StepCommand.Source.Metric

namespace StepCommand.Source

open Template
open Text (ofLines toList_ofLines)

namespace Environment

def written : List String := [
  "type \x7b\x7bstruct_name\x7d\x7d struct \x7b",
  "\x7b\x7b#each uncategorized\x7d\x7d",
  "\t\x7b\x7bfield\x7d\x7d \x7b\x7btype\x7d\x7d",
  "\x7b\x7b/each\x7d\x7d",
  "\x7b\x7b#each categories\x7d\x7d",
  "\t\x7b\x7bname\x7d\x7d struct \x7b",
  "\x7b\x7b#each parameters\x7d\x7d",
  "\t\t\x7b\x7bfield\x7d\x7d \x7b\x7btype\x7d\x7d",
  "\x7b\x7b/each\x7d\x7d",
  "\t\x7d",
  "\x7b\x7b/each\x7d\x7d",
  "\x7d",
  "",
  "func (p *\x7b\x7bstruct_name\x7d\x7d) persist(path, resourceName string) \x7b",
  "\tcontent := []struct \x7b",
  "\t\tcategory string",
  "\t\tname     string",
  "\t\tvalue    interface\x7b\x7d",
  "\t\x7d\x7b",
  "\x7b\x7b#each parameters\x7d\x7d",
  ("\t\t\x7bcategory: \"\x7b\x7bcategory\x7d\x7d\", name: \"\x7b\x7bname\x7d\x7d\", " ++
    "value: p.\x7b\x7baccessor\x7d\x7d \x7d,"),
  "\x7b\x7b/each\x7d\x7d",
  "\t\x7d",
  "",
  "\terrCount := 0",
  "\tfor _, param := range content \x7b",
  ("\t\terr := piperenv.SetResourceParameter(path, resourceName, " ++
    "filepath.Join(param.category, param.name), param.value)"),
  "\t\tif err != nil \x7b",
  "\t\t\tlog.Entry().WithError(err).Error(\"Error persisting piper environment.\")",
  "\t\t\terrCount++",
  "\t\t\x7d",
  "\t\x7d",
  "\tif errCount > 0 \x7b",
  "\t\tlog.Entry().Fatal(\"failed to persist Piper environment\")",
  "\t\x7d"]

set_option maxRecDepth 20000 in
theorem spelling?_template : spelling? template = some (ofLines written ++ "\x7d").toList := by
  simp (disch := rfl) only [
    written, template, declaration, storing, field, forEach, block, line, spelling?, spellAll?,
    spellAll?_append, Node.spell?, toList_ofLines, toList_tabs, toList_eq_spelt,
    String.toList_append, String.toList_join, List.flatMap_cons, List.flatMap_nil]
  cbv

end Environment

namespace Metric

def written : List String := [
  "type \x7b\x7bstruct_name\x7d\x7d struct \x7b",
  "\x7b\x7b#each measurements\x7d\x7d",
  "\t\x7b\x7bname\x7d\x7d struct \x7b",
  "\t\tfields struct \x7b",
  "\x7b\x7b#each fields\x7d\x7d",
  "\t\t\t\x7b\x7bfield\x7d\x7d \x7b\x7btype\x7d\x7d",
  "\x7b\x7b/each\x7d\x7d",
  "\t\t\x7d",
  "\t\ttags struct \x7b",
  "\x7b\x7b#each tags\x7d\x7d",
  "\t\t\t\x7b\x7bfield\x7d\x7d string",
  "\x7b\x7b/each\x7d\x7d",
  "\t\t\x7d",
  "\t\x7d",
  "\x7b\x7b/each\x7d\x7d",
  "\x7d",
  "",
  "func (i *\x7b\x7bstruct_name\x7d\x7d) persist(path, resourceName string) \x7b",
  "\tmeasurementContent := []struct \x7b",
  "\t\tmeasurement string",
  "\t\tvalType     string",
  "\t\tname        string",
  "\t\tvalue       interface\x7b\x7d",
  "\t\x7d\x7b",
  "\x7b\x7b#each entries\x7d\x7d",
  ("\t\t\x7bvalType: config.\x7b\x7bval_type\x7d\x7d, measurement: \"" ++
    "\x7b\x7bmeasurement\x7d\x7d\", name: \"\x7b\x7bname\x7d\x7d\", value: i." ++
    "\x7b\x7baccessor\x7d\x7d \x7d,"),
  "\x7b\x7b/each\x7d\x7d",
  "\t\x7d",
  "",
  "\terrCount := 0",
  "\tfor _, metric := range measurementContent \x7b",
  ("\t\terr := piperenv.SetResourceParameter(path, resourceName, " ++
    "filepath.Join(metric.measurement, fmt.Sprintf(\"%vs\", metric.valType), metric.name), " ++
    "metric.value)"),
  "\t\tif err != nil \x7b",
  "\t\t\tlog.Entry().WithError(err).Error(\"Error persisting influx environment.\")",
  "\t\t\terrCount++",
  "\t\t\x7d",
  "\t\x7d",
  "\tif errCount > 0 \x7b",
  "\t\tlog.Entry().Fatal(\"failed to persist Influx environment\")",
  "\t\x7d"]

set_option maxRecDepth 20000 in
theorem spelling?_template : spelling? template = some (ofLines written ++ "\x7d").toList := by
  simp (disch := rfl) only [
    written, template, declaration, storing, field, forEach, block, line, spelling?, spellAll?,
    spellAll?_append, Node.spell?, toList_ofLines, toList_tabs, toList_eq_spelt,
    String.toList_append, String.toList_join, List.flatMap_cons, List.flatMap_nil]
  cbv

end Metric

end StepCommand.Source
