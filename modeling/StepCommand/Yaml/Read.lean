import StepCommand.Value
import StepCommand.Yaml.Problem

namespace StepCommand.Yaml

-- The state counts the aliases followed so far.
abbrev Read := ReaderT Document (StateT Nat (Except Problem))

namespace Read

-- The first thing that does not fit is reported with its place.
def fail {α : Type} (problem : Problem) : Read α := fun _ _ => .error problem

def mismatch {α : Type} (what : Mismatch) : Read α := fail (.mismatch what none)

-- The innermost place that is known stands.
def located {α : Type} (path : Path) (mark : Mark) (read : Read α) : Read α := fun document count =>
  match read document count with
  | .error (.mismatch what none) => .error (.mismatch what (some (path, mark)))
  | result => result

-- A gap is reported as the reason for which the text breaks off.
def atGap {α : Type} : Read α := fun document _ =>
  .error (match document.broken with
    | some why => .broken why
    | none => .endOfStream)

-- Aliases may be followed a hundred times as often as the document has events.
def follow (node : Node) : Read Node := fun document count =>
  match node with
  | .aliasNode _ number =>
      if document.events * 100 < count + 1 then .error .repetitionLimit
      else .ok ((document.anchors.node? number).getD .gap, count + 1)
  | node => .ok (node, count)

-- Collections may be nested to a depth; `depth` is what is left of it.
def descend (depth : Nat) (mark : Mark) : Read Nat :=
  match depth with
  | 0 => fail (.recursionLimit mark)
  | depth + 1 => pure depth

def resolve (tag : Option Tag) (style : Style) (s : String) : Read Resolved :=
  match Resolved.ofScalar tag style s with
  | .ok r => pure r
  | .error e => mismatch (.invalidValue e.text e.expected)

-- The node is something else than what was expected.
def unexpected {α : Type} (expected : String) : Node → Read α
  | .scalar _ tag style s => do
      mismatch (.invalidType (.scalar (← resolve tag style s)) expected)
  | .sequence _ _ _ => mismatch (.invalidType .sequence expected)
  | .mapping _ _ _ => mismatch (.invalidType .mapping expected)
  | .aliasNode _ _ => fail .endOfStream
  | .gap => atGap

def markOf : Node → Mark
  | .scalar mark _ _ _ => mark
  | .sequence mark _ _ => mark
  | .mapping mark _ _ => mark
  | .aliasNode mark _ => mark
  | .gap => Mark.start

-- A scalar of any kind is taken as it is written.
def textAs (expected : String) (path : Path) (node : Node) : Read String := do
  let node ← follow node
  located path (markOf node) <|
    match node with
    | .scalar _ _ _ s => pure s
    | node => unexpected expected node

def text (path : Path) (node : Node) : Read String := textAs "a string" path node

def bool (path : Path) (node : Node) : Read Bool := do
  let node ← follow node
  located path (markOf node) <|
    match node with
    | .scalar _ tag style s =>
        if style = .plain ∨ (style = .literal ∧ tag = some Tag.bool) then
          match Resolved.bool? s with
          | some b => pure b
          | none => unexpected "a boolean" node
        else unexpected "a boolean" node
    | node => unexpected "a boolean" node

-- Is the node something, or nothing?
def isSome (node : Node) : Read Bool :=
  match node with
  | .scalar _ tag .plain s =>
      match tag with
      | some tag =>
          if tag = Tag.null then
            if Resolved.null? s then pure false else mismatch (.invalidValue s "null")
          else pure true
      | none => pure (!s.isEmpty && !Resolved.null? s)
  | .gap => atGap
  | _ => pure true

def option {α : Type} (read : Node → Read α) (node : Node) : Read (Option α) := do
  let node ← follow node
  if ← isSome node then return some (← read node) else return none

def isEmptyPlain : Node → Bool
  | .scalar _ _ .plain s => s.isEmpty
  | _ => false

-- The items up to a gap, and then the report of it.
def items {α : Type} (read : Path → Node → Read α) (path : Path) : Nat → List Node → Read (List α)
  | _, [] => pure []
  | i, node :: rest => do
      let item ← read (.index i :: path) node
      return item :: (← items read path (i + 1) rest)

def list {α : Type} (read : Nat → Path → Node → Read α) (depth : Nat) (path : Path) (node : Node) :
    Read (List α) := do
  let node ← follow node
  located path (markOf node) <|
    match node with
    | .sequence mark _ nodes => do
        let depth ← descend depth mark
        items (read depth) path 0 nodes
    | node => if isEmptyPlain node then pure [] else unexpected "a sequence" node

-- Nothing is read of a value that nobody asked for, but it has to be there in full.
def hasGap : Node → Bool
  | .gap => true
  | .sequence _ _ nodes => listHasGap nodes
  | .mapping _ _ entries => entriesHaveGap entries
  | _ => false
where
  listHasGap : List Node → Bool
    | [] => false
    | node :: rest => hasGap node || listHasGap rest
  entriesHaveGap : List (Node × Node) → Bool
    | [] => false
    | (key, node) :: rest => hasGap key || hasGap node || entriesHaveGap rest

def ignore (node : Node) : Read Unit := if hasGap node then atGap else pure ()

-- Only a key that is written out names the place of its value.
def valuePath (path : Path) (key : Node) : Path :=
  match key with
  | .scalar _ _ _ name => .key name :: path
  | _ => .unknown :: path

abbrev Fields (ρ : Type) := String → Option (Nat → Path → Node → ρ → Read ρ)

def entries {ρ : Type} (fields : Fields ρ) (depth : Nat) (path : Path) :
    List (Node × Node) → List String → ρ → Read (List String × ρ)
  | [], seen, record => pure (seen, record)
  | (key, node) :: rest, seen, record => do
      let name ← textAs "field identifier" path key
      match fields name with
      | none => do
          ignore node
          entries fields depth path rest seen record
      | some read =>
          if name ∈ seen then mismatch (.duplicateField name)
          else do
            let record ← read depth (valuePath path key) node record
            entries fields depth path rest (name :: seen) record

def require {ρ : Type} (required : List String) (seen : List String) (record : ρ) : Read ρ :=
  match required.find? (· ∉ seen) with
  | some name => mismatch (.missingField name)
  | none => pure record

-- Nothing at all is a record without fields.
def record {ρ : Type} (name : String) (required : List String) (fields : Fields ρ) (start : ρ)
    (depth : Nat) (path : Path) (node : Node) : Read ρ := do
  let node ← follow node
  located path (markOf node) <|
    match node with
    | .mapping mark _ nodes => do
        let depth ← descend depth mark
        let (seen, record) ← entries fields depth path nodes [] start
        require required seen record
    | node =>
        if isEmptyPlain node then require required [] start
        else unexpected ("struct " ++ name) node

-- A local tag makes a value that is no plain value, if the tag can be read as a text.
def isVariant (tag : Option Tag) : Bool :=
  match tag with
  | some tag => tag.isLocal && tag.isText
  | none => false

-- What is no number for a reader of values is nothing.
def ofResolved : Resolved → Read Value
  | .unit => pure .null
  | .bool b => pure (.bool b)
  | .int n => pure (.int n)
  | .wideUnsigned _ => mismatch .numberRange
  | .wideSigned _ => mismatch .numberRange
  | .float x => pure (.float x)
  | .infinite _ => pure .null
  | .nan => pure .null
  | .text s => pure (.text s)

def tagOf : Node → Option Tag
  | .scalar _ tag _ _ => tag
  | .sequence _ tag _ => tag
  | .mapping _ tag _ => tag
  | _ => none

def valueEntries (read : Path → Node → Read Value) (path : Path) :
    String → List (Node × Node) → List (String × Value) → Read (List (String × Value))
  | _, [], done => pure done
  | expected, (key, node) :: rest, done => do
      let name ← textAs expected path key
      let value ← read (valuePath path key) node
      valueEntries read path "a string" rest (Value.insertEntry name value done)

def valueWithin (depth : Nat) (path : Path) (node : Node) : Read Value := do
  let node ← follow node
  located path (markOf node) <|
    if isVariant (tagOf node) then
      mismatch (.invalidType .tagged "any valid JSON value")
    else
      match node with
      | .scalar _ tag style s => do ofResolved (← resolve tag style s)
      | .sequence mark _ nodes =>
          match depth with
          | 0 => fail (.recursionLimit mark)
          | depth + 1 => do return .list (← items (valueWithin depth) path 0 nodes)
      | .mapping mark _ nodes =>
          match depth with
          | 0 => fail (.recursionLimit mark)
          | depth + 1 => do
              return .object (← valueEntries (valueWithin depth) path "a string key" nodes [])
      | node => unexpected "any valid JSON value" node

def value (depth : Nat) (path : Path) (node : Node) : Read Value := valueWithin depth path node

end Read

-- Reads a text as one document of a given shape. Collections may be nested 128 deep.
def read {α : Type} (shape : Nat → Path → Node → Read α) (text : String) : Except Problem α := do
  let document := Document.ofText text
  let (result, _) ← shape 128 [] document.root document 0
  match document.broken with
  | some why => throw (.broken why)
  | none => if document.complete then return result else throw .moreDocuments

end StepCommand.Yaml
