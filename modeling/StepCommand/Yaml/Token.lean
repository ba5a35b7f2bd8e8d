import StepCommand.Yaml.Mark
import StepCommand.Yaml.Tag

namespace StepCommand.Yaml

inductive Style where
  | plain
  | singleQuoted
  | doubleQuoted
  | literal
  | folded
deriving DecidableEq, Repr

-- Indentation is made explicit: where a block collection starts and ends there is a token of its
-- own.
inductive Token.Kind where
  | streamEnd
  | version (major minor : Nat)
  | tagDirective (handle : String) (replacement : Tag)
  | documentStart
  | documentEnd
  | blockSequenceStart
  | blockMappingStart
  | blockEnd
  | flowSequenceStart
  | flowSequenceEnd
  | flowMappingStart
  | flowMappingEnd
  | blockEntry
  | flowEntry
  | key
  | value
  | aliasNode (name : String)
  | anchor (name : String)
  | tag (handle : String) (suffix : Tag)
  | scalar (style : Style) (text : String)
deriving DecidableEq, Repr

structure Token where
  kind : Token.Kind
  start : Mark
  stop : Mark
deriving DecidableEq, Repr

end StepCommand.Yaml
