import StepCommand.Yaml.Token

namespace StepCommand.Yaml

-- What a node says about itself before its content.
structure Properties where
  anchor : Option String
  tag : Option Tag
deriving DecidableEq, Repr

def Properties.none : Properties := ⟨Option.none, Option.none⟩

inductive Event.Kind where
  | documentStart
  | documentEnd
  | streamEnd
  | aliasNode (name : String)
  | scalar (properties : Properties) (style : Style) (text : String)
  | sequenceStart (properties : Properties)
  | sequenceEnd
  | mappingStart (properties : Properties)
  | mappingEnd
deriving DecidableEq, Repr

structure Event where
  kind : Event.Kind
  mark : Mark
deriving DecidableEq, Repr

end StepCommand.Yaml
