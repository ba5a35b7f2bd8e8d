import StepCommand.Proofs.Source.Registry.Reading
import StepCommand.Proofs.Source.Written.Command
import StepCommand.Proofs.Source.Written.Implementation
import StepCommand.Proofs.Source.Written.Resource
import StepCommand.Proofs.Template.Spelled.Reading

namespace StepCommand.Source

open Template
open Text (ofLines)

def sources : List (String × Template) := [
  (ofLines Command.written, Command.template),
  (ofLines CommandTest.written, CommandTest.template),
  (ofLines Implementation.written, Implementation.template),
  (ofLines ImplementationTest.written, ImplementationTest.template),
  (ofLines Environment.written ++ "\x7d", Environment.template),
  (ofLines Metric.written ++ "\x7d", Metric.template),
  (ofLines Registry.written, Registry.template)]

variable {text : String} {template : Template}

theorem spelling?_of_mem (h : (text, template) ∈ sources) :
    spelling? template = some text.toList := by
  simp only [sources, List.mem_cons, List.not_mem_nil, or_false, Prod.mk.injEq] at h
  obtain ⟨rfl, rfl⟩ | ⟨rfl, rfl⟩ | ⟨rfl, rfl⟩ | ⟨rfl, rfl⟩ | ⟨rfl, rfl⟩ | ⟨rfl, rfl⟩ | ⟨rfl, rfl⟩ := h
  · exact Command.spelling?_template
  · exact CommandTest.spelling?_template
  · exact Implementation.spelling?_template
  · exact ImplementationTest.spelling?_template
  · exact Environment.spelling?_template
  · exact Metric.spelling?_template
  · exact Registry.spelling?_template

-- Up to texts that follow each other, each text is read as its template.
theorem parse?_of_mem (h : (text, template) ∈ sources) : parse? text = some (joined template) :=
  parse?_of_spelling? (spelling?_of_mem h)

-- So that a text is filled as its template is, with the same faults.
theorem fillText_of_mem (h : (text, template) ∈ sources) (name : String) (table : Table)
    (record : Value) : fillText name table text record = fill name table template record :=
  fillText_of_spelling? (spelling?_of_mem h)

end StepCommand.Source
