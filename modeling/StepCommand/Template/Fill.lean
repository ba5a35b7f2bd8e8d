import StepCommand.Failure
import StepCommand.Template.Parse
import StepCommand.Template.Render

namespace StepCommand.Template

def fill (name : String) (table : Table) (template : Template) (record : Value) :
    Except Failure String :=
  (template.render table record).mapError (Failure.render name)

-- Fills a template that is given as text.
def fillText (name : String) (table : Table) (source : String) (record : Value) :
    Except Failure String :=
  match parse? source with
  | some template => fill name table template record
  | none => .error (.template name)

end StepCommand.Template
