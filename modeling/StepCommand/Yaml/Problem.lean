import StepCommand.Text.Quoted
import StepCommand.Yaml.Document
import StepCommand.Yaml.Scalar

namespace StepCommand.Yaml

-- What stands where something else was expected.
inductive Found where
  | scalar (value : Resolved)
  | sequence
  | mapping
  | tagged

namespace Found

def ofFloat (x : Double) : String := "floating point `" ++ x.positionalText ++ "`"

def text : Found → String
  | scalar .unit => "unit value"
  | scalar (.bool b) => "boolean `" ++ toString b ++ "`"
  | scalar (.int n) => "integer `" ++ toString n ++ "`"
  | scalar (.wideUnsigned n) => "integer `" ++ toString n ++ "` as u128"
  | scalar (.wideSigned n) => "integer `" ++ toString n ++ "` as i128"
  | scalar (.float x) => ofFloat x
  | scalar (.infinite negative) => "floating point `" ++ (if negative then "-inf" else "inf") ++ "`"
  | scalar .nan => "floating point `NaN`"
  | scalar (.text s) => "string " ++ Text.quoted s
  | sequence => "sequence"
  | mapping => "map"
  | tagged => "enum"

end Found

inductive Mismatch where
  | invalidType (found : Found) (expected : String)
  | invalidValue (text expected : String)
  | missingField (name : String)
  | duplicateField (name : String)
  | numberRange

def Mismatch.text : Mismatch → String
  | invalidType found expected => "invalid type: " ++ found.text ++ ", expected " ++ expected
  | invalidValue s expected =>
      "invalid value: string " ++ Text.quoted s ++ ", expected " ++ expected
  | missingField name => "missing field `" ++ name ++ "`"
  | duplicateField name => "duplicate field `" ++ name ++ "`"
  | numberRange => "JSON number out of range"

inductive Segment where
  | key (name : String)
  | index (i : Nat)
  | unknown
deriving DecidableEq

-- The way from the root of a document to a node, the last step first.
abbrev Path := List Segment

namespace Path

def text : Path → String
  | [] => "."
  | .index i :: outer => text outer ++ "[" ++ toString i ++ "]"
  | .key name :: outer => (if outer.isEmpty then "" else text outer ++ ".") ++ name
  | .unknown :: outer => (if outer.isEmpty then "" else text outer ++ ".") ++ "?"

end Path

inductive Problem where
  | broken (why : Break)
  | mismatch (what : Mismatch) (place : Option (Path × Mark))
  | recursionLimit (mark : Mark)
  | repetitionLimit
  | moreDocuments
  | endOfStream

namespace Problem

def at? (mark : Mark) : String := if mark.atStart then "" else " at " ++ mark.text

def text : Problem → String
  | broken (.malformed e) => e.text
  | broken (.unknownAnchor mark) => "unknown anchor" ++ at? mark
  | mismatch what none => what.text
  | mismatch what (some (path, mark)) =>
      (if path.isEmpty then "" else path.text ++ ": ") ++ what.text ++ at? mark
  | recursionLimit mark => "recursion limit exceeded" ++ at? mark
  | repetitionLimit => "repetition limit exceeded"
  | moreDocuments =>
      "deserializing from YAML containing more than one document is not supported"
  | endOfStream => "EOF while parsing a value"

end Problem

end StepCommand.Yaml
