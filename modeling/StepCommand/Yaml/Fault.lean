import StepCommand.Yaml.Mark

namespace StepCommand.Yaml

inductive Fault where
  | tokenStart
  | keyWithoutColon
  | blockEntry
  | blockKey
  | blockValue
  | unknownDirective
  | commentOrBreak
  | directiveName
  | directiveNameEnd
  | versionDot
  | longVersion
  | versionNumber
  | whitespace
  | whitespaceOrBreak
  | anchorName
  | verbatimEnd
  | exclamationMark
  | tagUri
  | escapedOctet
  | leadingOctet
  | trailingOctet
  | zeroIndentation
  | tabInIndentation
  | documentIndicator
  | endOfStream
  | unknownEscape
  | hexNumber
  | escapeCode
  | colonInPlain
  | tabBeforePlain
  | documentStart
  | undefinedHandle
  | nodeContent
  | blockSequenceEntry
  | blockMappingKey
  | flowSequenceEnd
  | flowMappingEnd
  | duplicateVersion
  | incompatibleVersion
  | duplicateHandle
  | control (offset : Nat)
deriving DecidableEq, Repr

def Fault.text : Fault → String
  | tokenStart => "found character that cannot start any token"
  | keyWithoutColon => "could not find expected ':'"
  | blockEntry => "block sequence entries are not allowed in this context"
  | blockKey => "mapping keys are not allowed in this context"
  | blockValue => "mapping values are not allowed in this context"
  | unknownDirective => "found unknown directive name"
  | commentOrBreak => "did not find expected comment or line break"
  | directiveName => "could not find expected directive name"
  | directiveNameEnd => "found unexpected non-alphabetical character"
  | versionDot => "did not find expected digit or '.' character"
  | longVersion => "found extremely long version number"
  | versionNumber => "did not find expected version number"
  | whitespace => "did not find expected whitespace"
  | whitespaceOrBreak => "did not find expected whitespace or line break"
  | anchorName => "did not find expected alphabetic or numeric character"
  | verbatimEnd => "did not find the expected '>'"
  | exclamationMark => "did not find expected '!'"
  | tagUri => "did not find expected tag URI"
  | escapedOctet => "did not find URI escaped octet"
  | leadingOctet => "found an incorrect leading UTF-8 octet"
  | trailingOctet => "found an incorrect trailing UTF-8 octet"
  | zeroIndentation => "found an indentation indicator equal to 0"
  | tabInIndentation => "found a tab character where an indentation space is expected"
  | documentIndicator => "found unexpected document indicator"
  | endOfStream => "found unexpected end of stream"
  | unknownEscape => "found unknown escape character"
  | hexNumber => "did not find expected hexadecimal number"
  | escapeCode => "found invalid Unicode character escape code"
  | colonInPlain => "found unexpected ':'"
  | tabBeforePlain => "found a tab character that violates indentation"
  | documentStart => "did not find expected <document start>"
  | undefinedHandle => "found undefined tag handle"
  | nodeContent => "did not find expected node content"
  | blockSequenceEntry => "did not find expected '-' indicator"
  | blockMappingKey => "did not find expected key"
  | flowSequenceEnd => "did not find expected ',' or ']'"
  | flowMappingEnd => "did not find expected ',' or '\x7d'"
  | duplicateVersion => "found duplicate %YAML directive"
  | incompatibleVersion => "found incompatible YAML document"
  | duplicateHandle => "found duplicate %TAG directive"
  | control offset =>
      "control characters are not allowed" ++
        if offset = 0 then "" else " at position " ++ toString offset

-- What was being read when the fault was met.
inductive Activity where
  | nextToken
  | simpleKey
  | directive
  | versionDirective
  | tagDirective
  | tagDirectiveStart
  | tagDirectiveHandle
  | tagDirectivePrefix
  | anchor
  | aliasNode
  | tag
  | tagUri
  | blockScalar
  | quotedScalar
  | quotedEscape
  | plainScalar
  | node
  | blockNode
  | flowNode
  | blockCollection
  | blockMapping
  | flowSequence
  | flowMapping
deriving DecidableEq, Repr

def Activity.text : Activity → String
  | nextToken => "while scanning for the next token"
  | simpleKey => "while scanning a simple key"
  | directive => "while scanning a directive"
  | versionDirective => "while scanning a %YAML directive"
  | tagDirective => "while scanning a %TAG directive"
  | tagDirectiveStart => "while scanning a tag directive"
  | tagDirectiveHandle => "while parsing a tag directive"
  | tagDirectivePrefix => "while parsing a %TAG directive"
  | anchor => "while scanning an anchor"
  | aliasNode => "while scanning an alias"
  | tag => "while scanning a tag"
  | tagUri => "while parsing a tag"
  | blockScalar => "while scanning a block scalar"
  | quotedScalar => "while scanning a quoted scalar"
  | quotedEscape => "while parsing a quoted scalar"
  | plainScalar => "while scanning a plain scalar"
  | node => "while parsing a node"
  | blockNode => "while parsing a block node"
  | flowNode => "while parsing a flow node"
  | blockCollection => "while parsing a block collection"
  | blockMapping => "while parsing a block mapping"
  | flowSequence => "while parsing a flow sequence"
  | flowMapping => "while parsing a flow mapping"

structure SyntaxError where
  fault : Fault
  mark : Mark
  context : Option (Activity × Mark)
deriving DecidableEq, Repr

-- The very start of the text is not named as a place, and no place is named twice.
def SyntaxError.text (e : SyntaxError) : String :=
  let place := if e.mark.atStart then "" else " at " ++ e.mark.text
  let context :=
    match e.context with
    | none => ""
    | some (activity, mark) =>
        ", " ++ activity.text ++
          if mark.atStart || mark.samePlace e.mark then "" else " at " ++ mark.text
  e.fault.text ++ place ++ context

end StepCommand.Yaml
