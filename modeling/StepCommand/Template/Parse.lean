import StepCommand.Template.Argument

namespace StepCommand.Template

inductive Tag where
  | node (n : Node)
  | opening (name : String) (given : List Argument)
  | closing (name : String)

def endOfTag? (s : List Char) : Option (List Char) :=
  match skipSpace s with
  | '\x7d' :: '\x7d' :: rest => some rest
  | _ => none

def opening? (s : List Char) : Option (Tag × List Char) := do
  let (name, rest) ← identifier? (skipSpace s)
  let (items, rest) := Argument.all (Argument.fuelFor rest) (skipSpace rest)
  return (.opening name (items.filterMap id), ← endOfTag? rest)

def closing? (s : List Char) : Option (Tag × List Char) := do
  let (name, rest) ← identifier? (skipSpace s)
  return (.closing name, ← endOfTag? rest)

-- What a place prints if it is not a call with arguments.
def printed? (s : List Char) : Option (Node × List Char) :=
  match s with
  | '(' :: rest =>
      (Argument.parenthesized? (Argument.fuelFor rest) rest).map fun (argument, rest) =>
        (.print argument, rest)
  | _ => (Path.read? s).map fun (p, rest) => (.print (.path p), rest)

def expression? (s : List Char) : Option (Node × List Char) :=
  match Argument.called? (Argument.fuelFor s) s with
  | some (.call name arguments, rest) => some (.call name arguments, rest)
  | _ => printed? s

-- The word for the other part, alone or with the head of a part right behind it, is not to be read
-- as a path.
def isElse (s : List Char) : Bool :=
  match "else".toList.isPrefixOf? s with
  | none => false
  | some rest =>
      let head := (identifier? (skipSpace rest)).bind fun (_, rest) =>
        endOfTag? (Argument.all (Argument.fuelFor rest) (skipSpace rest)).2
      (endOfTag? rest <|> head).isSome

-- `s` follows the two opening braces. Nothing is escaped when a place is filled, so that one more
-- pair of braces, or the sign against escaping, has no effect.
def tag? (s : List Char) : Option (Tag × List Char) :=
  match skipSpace s with
  | '#' :: rest => opening? rest
  | '/' :: rest => closing? rest
  | '\x7b' :: rest => do
      let (node, rest) ← expression? (skipSpace rest)
      match skipSpace rest with
      | '\x7d' :: rest => return (.node node, ← endOfTag? rest)
      | _ => none
  | '&' :: rest => do
      let (node, rest) ← printed? (skipSpace rest)
      return (.node node, ← endOfTag? rest)
  | s =>
      if isElse s then none
      else do
        let (node, rest) ← expression? s
        return (.node node, ← endOfTag? rest)

def isLineSpace (c : Char) : Bool := c == ' ' || c == '\t'

def startsAtBreak : List Char → Bool
  | c :: _ => c == '\n' || c == '\r'
  | [] => false

-- `before` is what stands before the tag, backwards.
def standsAlone (before after : List Char) : Bool :=
  (after.isEmpty || startsAtBreak (after.dropWhile isLineSpace)) &&
    ((before.dropWhile isLineSpace).isEmpty || startsAtBreak (before.dropWhile isLineSpace))

inductive Piece where
  | text (s : List Char)
  | tag (t : Tag) (alone : Bool)

def isPart : Tag → Bool
  | .node _ => false
  | _ => true

-- A single backslash makes the braces behind it text; of several, one is left out. The text before
-- the braces is given backwards.
def isEscaped : List Char → Bool
  | '\\' :: c :: _ => c != '\\'
  | text => text == ['\\']

def dropOneOfMany : List Char → List Char
  | '\\' :: '\\' :: text => '\\' :: text
  | text => text

-- Two more braces belong to the escaped ones.
def escapedBraces (rest : List Char) : List Char :=
  List.replicate (if ['\x7b', '\x7b'].isPrefixOf rest then 4 else 2) '\x7b'

-- Cuts a template into text and tags. `text` is the text since the last tag, backwards.
def pieces? : Nat → List Char → List Char → List Char → Option (List Piece)
  | 0, _, _, _ => none
  | fuel + 1, before, text, s =>
      match s with
      | [] => some [.text text.reverse]
      | '\x7b' :: '\x7b' :: rest =>
          if isEscaped text then
            let braces := escapedBraces rest
            pieces? fuel (braces ++ before) (braces ++ text.drop 1) (s.drop braces.length)
          else do
            let (tag, after) ← tag? rest
            let whole := s.take (s.length - after.length)
            let alone := isPart tag && standsAlone before after
            let more ← pieces? fuel (whole.reverse ++ before) [] after
            return .text (dropOneOfMany text).reverse :: .tag tag alone :: more
      | c :: rest => pieces? fuel (c :: before) (c :: text) rest

def dropBreak : List Char → List Char
  | '\r' :: '\n' :: rest => rest
  | '\n' :: rest => rest
  | s => s

def trimLineEnd (s : List Char) : List Char := (s.reverse.dropWhile isLineSpace).reverse

-- Takes the lines of the tags that stand alone out of the text around them.
def trimLines : Bool → List Piece → List Piece
  | _, [] => []
  | afterAlone, .text s :: rest =>
      let s := if afterAlone then dropBreak (s.dropWhile isLineSpace) else s
      let s := match rest with
        | .tag _ true :: _ => trimLineEnd s
        | _ => s
      .text s :: trimLines false rest
  | _, .tag t alone :: rest => .tag t alone :: trimLines alone rest

-- Functions take no notice of a body, except for one that leaves it as it is.
def partNode (name : String) (given : List Argument) (body : List Node) : Node :=
  match name, given with
  | "if", condition :: _ => .ifTrue condition body
  | "unless", condition :: _ => .ifFalse condition body
  | "each", items :: _ => .each items body
  | "with", value :: _ => .within value body
  | "raw", _ => .ifTrue (.literal (.bool true)) body
  | name, given => .call name given

structure Open where
  name : String
  given : List Argument
  before : List Node

-- `done` holds the nodes of the innermost open part, backwards.
def nest? : List Open → List Node → List Piece → Option Template
  | [], done, [] => some done.reverse
  | _ :: _, _, [] => none
  | parts, done, .text s :: rest =>
      if s.isEmpty then nest? parts done rest
      else nest? parts (.text (String.ofList s) :: done) rest
  | parts, done, .tag (.node n) _ :: rest => nest? parts (n :: done) rest
  | parts, done, .tag (.opening name given) _ :: rest =>
      nest? (⟨name, given, done⟩ :: parts) [] rest
  | [], _, .tag (.closing _) _ :: _ => none
  | part :: outer, done, .tag (.closing name) _ :: rest =>
      if part.name = name then
        nest? outer (partNode name part.given done.reverse :: part.before) rest
      else none

def parse? (source : String) : Option Template := do
  let pieces ← pieces? (source.length + 1) [] [] source.toList
  nest? [] [] (trimLines false pieces)

end StepCommand.Template
