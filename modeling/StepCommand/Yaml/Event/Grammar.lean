import StepCommand.Yaml.Event
import StepCommand.Yaml.Token.Stream

namespace StepCommand.Yaml

-- The grammar is run with a stack of what is expected next.
inductive Expect where
  | firstDocument
  | document
  | documentContent
  | documentEnd
  | blockNode
  | blockSequenceEntry
  | indentlessEntry
  | blockMappingKey
  | blockMappingValue
  | flowSequenceFirst
  | flowSequenceEntry
  | pairKey
  | pairValue
  | pairEnd
  | flowMappingFirst
  | flowMappingKey
  | flowMappingValue
  | flowMappingNoValue
  | nothing
deriving DecidableEq, Repr

-- `marks` are the starts of the open collections, `handles` the tag handles of the document.
structure Grammar where
  input : Tokens
  expect : Expect
  stack : List Expect
  marks : List Mark
  handles : List (String × Tag)

namespace Grammar

abbrev Step := Except (Option SyntaxError) (Event × Grammar)

def ofTokens (input : Tokens) : Grammar := ⟨input, .firstDocument, [], [], []⟩

def peek (g : Grammar) : Except (Option SyntaxError) Token :=
  match g.input.tokens with
  | t :: _ => .ok t
  | [] => .error g.input.failure

def advance (g : Grammar) : Grammar :=
  { g with input := { g.input with tokens := g.input.tokens.tail } }

def fail {α : Type} (fault : Fault) (mark : Mark) (context : Option (Activity × Mark)) :
    Except (Option SyntaxError) α :=
  .error (some ⟨fault, mark, context⟩)

def become (g : Grammar) (expect : Expect) : Grammar := { g with expect := expect }

def push (g : Grammar) (expect : Expect) : Grammar := { g with stack := expect :: g.stack }

-- Goes back to what was expected before the node that ends here.
def pop (g : Grammar) : Grammar :=
  { g with expect := g.stack.headD .nothing, stack := g.stack.tail }

def openAt (g : Grammar) (mark : Mark) : Grammar := { g with marks := mark :: g.marks }

def close (g : Grammar) : Grammar := { g with marks := g.marks.tail }

def emit (kind : Event.Kind) (mark : Mark) (g : Grammar) : Step := .ok (⟨kind, mark⟩, g)

def emitEmpty (mark : Mark) (g : Grammar) : Step :=
  emit (.scalar Properties.none .plain "") mark g

def failInside {α : Type} (g : Grammar) (activity : Activity) (fault : Fault) (mark : Mark) :
    Except (Option SyntaxError) α :=
  fail fault mark (some (activity, g.marks.headD Mark.start))

def defaultHandles : List (String × Tag) :=
  [("!", Tag.ofString "!"), ("!!", Tag.ofString "tag:yaml.org,2002:")]

-- The tag that a handle and a suffix stand for; a verbatim tag has no handle.
def resolveTag (g : Grammar) (start : Mark) : Option (String × Tag × Mark) →
    Except (Option SyntaxError) (Option Tag)
  | none => .ok none
  | some (handle, suffix, mark) =>
      if handle.isEmpty then .ok (some suffix)
      else
        match g.handles.lookup handle with
        | some replacement => .ok (some (replacement.append suffix))
        | none => fail .undefinedHandle mark (some (.node, start))

structure Prelude where
  start : Mark
  anchor : Option String
  tag : Option (String × Tag × Mark)
  first : Token
  grammar : Grammar

-- An anchor and a tag may stand before a node, in either order.
def takeProperties (g : Grammar) : Except (Option SyntaxError) Prelude := do
  let t ← g.peek
  match t.kind with
  | .anchor name =>
      let g := g.advance
      let t2 ← g.peek
      match t2.kind with
      | .tag handle suffix =>
          let g := g.advance
          return ⟨t.start, some name, some (handle, suffix, t2.start), ← g.peek, g⟩
      | _ => return ⟨t.start, some name, none, t2, g⟩
  | .tag handle suffix =>
      let g := g.advance
      let t2 ← g.peek
      match t2.kind with
      | .anchor name =>
          let g := g.advance
          return ⟨t.start, some name, some (handle, suffix, t.start), ← g.peek, g⟩
      | _ => return ⟨t.start, none, some (handle, suffix, t.start), t2, g⟩
  | _ => return ⟨t.start, none, none, t, g⟩

-- `block` admits block collections, `indentless` a sequence at the indentation of its key.
def node (g : Grammar) (block indentless : Bool) : Step := do
  let t ← g.peek
  match t.kind with
  | .aliasNode name => emit (.aliasNode name) t.start g.advance.pop
  | _ =>
      let p ← g.takeProperties
      let g := p.grammar
      let tag ← g.resolveTag p.start p.tag
      let properties : Properties := ⟨p.anchor, tag⟩
      match p.first.kind, block, indentless with
      | .blockEntry, _, true =>
          emit (.sequenceStart properties) p.start (g.become .indentlessEntry)
      | .scalar style text, _, _ => emit (.scalar properties style text) p.start g.advance.pop
      | .flowSequenceStart, _, _ =>
          emit (.sequenceStart properties) p.start
            ((g.openAt p.first.start).advance.become .flowSequenceFirst)
      | .flowMappingStart, _, _ =>
          emit (.mappingStart properties) p.start
            ((g.openAt p.first.start).advance.become .flowMappingFirst)
      | .blockSequenceStart, true, _ =>
          emit (.sequenceStart properties) p.start
            ((g.openAt p.first.start).advance.become .blockSequenceEntry)
      | .blockMappingStart, true, _ =>
          emit (.mappingStart properties) p.start
            ((g.openAt p.first.start).advance.become .blockMappingKey)
      | _, _, _ =>
          if p.anchor.isSome || tag.isSome then
            emit (.scalar properties .plain "") p.start g.pop
          else
            fail .nodeContent p.first.start
              (some (if block then .blockNode else .flowNode, p.start))

def isDirective : Token.Kind → Bool
  | .version _ _ => true
  | .tagDirective _ _ => true
  | _ => false

-- Reads the directives before a document, each at most once.
def directives : Nat → Bool → List (String × Tag) → Grammar →
    Except (Option SyntaxError) Grammar
  | 0, _, _, g => .ok g
  | fuel + 1, versioned, handles, g => do
      let t ← g.peek
      match t.kind with
      | .version major minor =>
          if versioned then fail .duplicateVersion t.start none
          else if major ≠ 1 ∨ (minor ≠ 1 ∧ minor ≠ 2) then fail .incompatibleVersion t.start none
          else directives fuel true handles g.advance
      | .tagDirective handle replacement =>
          if (handles.lookup handle).isSome then fail .duplicateHandle t.start none
          else directives fuel versioned (handles ++ [(handle, replacement)]) g.advance
      | _ =>
          let missing := defaultHandles.filter fun h => (handles.lookup h.1).isNone
          return { g with handles := handles ++ missing }

def skipDocumentEnds (g : Grammar) : Grammar :=
  { g with input :=
    { g.input with tokens := g.input.tokens.dropWhile fun t => t.kind == .documentEnd } }

-- Only the first document may start without its indicator.
def document (g : Grammar) (first : Bool) : Step := do
  let g := if first then g else g.skipDocumentEnds
  let t ← g.peek
  if t.kind = .streamEnd then emit .streamEnd t.start (g.advance.become .nothing)
  else if first && !(isDirective t.kind || t.kind = .documentStart) then
    let g ← directives 1 false [] g
    emit .documentStart t.start ((g.push .documentEnd).become .blockNode)
  else
    let start := t.start
    let g ← directives (g.input.tokens.length + 1) false [] g
    let t ← g.peek
    if t.kind = .documentStart then
      emit .documentStart start ((g.push .documentEnd).advance.become .documentContent)
    else fail .documentStart t.start none

def documentContent (g : Grammar) : Step := do
  let t ← g.peek
  let empty := isDirective t.kind || t.kind = .documentStart || t.kind = .documentEnd ||
    t.kind = .streamEnd
  if empty then emitEmpty t.start g.pop else g.node true false

def documentEnd (g : Grammar) : Step := do
  let t ← g.peek
  let g := if t.kind = .documentEnd then g.advance else g
  emit .documentEnd t.start { g with handles := [], expect := .document }

def blockSequenceEntry (g : Grammar) : Step := do
  let t ← g.peek
  match t.kind with
  | .blockEntry =>
      let g := g.advance
      let next ← g.peek
      match next.kind with
      | .blockEntry | .blockEnd => emitEmpty t.stop (g.become .blockSequenceEntry)
      | _ => (g.push .blockSequenceEntry).node true false
  | .blockEnd => emit .sequenceEnd t.start g.close.advance.pop
  | _ => g.failInside .blockCollection .blockSequenceEntry t.start

def indentlessEntry (g : Grammar) : Step := do
  let t ← g.peek
  match t.kind with
  | .blockEntry =>
      let g := g.advance
      let next ← g.peek
      match next.kind with
      | .blockEntry | .key | .value | .blockEnd => emitEmpty t.stop (g.become .indentlessEntry)
      | _ => (g.push .indentlessEntry).node true false
  | _ => emit .sequenceEnd t.start g.pop

def blockMappingKey (g : Grammar) : Step := do
  let t ← g.peek
  match t.kind with
  | .key =>
      let g := g.advance
      let next ← g.peek
      match next.kind with
      | .key | .value | .blockEnd => emitEmpty t.stop (g.become .blockMappingValue)
      | _ => (g.push .blockMappingValue).node true true
  | .blockEnd => emit .mappingEnd t.start g.close.advance.pop
  | _ => g.failInside .blockMapping .blockMappingKey t.start

def blockMappingValue (g : Grammar) : Step := do
  let t ← g.peek
  match t.kind with
  | .value =>
      let g := g.advance
      let next ← g.peek
      match next.kind with
      | .key | .value | .blockEnd => emitEmpty t.stop (g.become .blockMappingKey)
      | _ => (g.push .blockMappingKey).node true true
  | _ => emitEmpty t.start (g.become .blockMappingKey)

def flowSequenceEnd (g : Grammar) (t : Token) : Step :=
  emit .sequenceEnd t.start g.close.advance.pop

-- In a sequence a key and its value make up a mapping of their own.
def flowSequenceItem (g : Grammar) (t : Token) : Step :=
  match t.kind with
  | .key => emit (.mappingStart Properties.none) t.start (g.advance.become .pairKey)
  | .flowSequenceEnd => g.flowSequenceEnd t
  | _ => (g.push .flowSequenceEntry).node false false

def flowSequenceEntry (g : Grammar) (first : Bool) : Step := do
  let t ← g.peek
  if first || t.kind = .flowSequenceEnd then g.flowSequenceItem t
  else if t.kind = .flowEntry then
    let g := g.advance
    g.flowSequenceItem (← g.peek)
  else g.failInside .flowSequence .flowSequenceEnd t.start

-- Without a key the token after its indicator is passed over.
def pairKey (g : Grammar) : Step := do
  let t ← g.peek
  match t.kind with
  | .value | .flowEntry | .flowSequenceEnd => emitEmpty t.stop (g.advance.become .pairValue)
  | _ => (g.push .pairValue).node false false

def pairValue (g : Grammar) : Step := do
  let t ← g.peek
  match t.kind with
  | .value =>
      let g := g.advance
      let next ← g.peek
      match next.kind with
      | .flowEntry | .flowSequenceEnd => emitEmpty next.start (g.become .pairEnd)
      | _ => (g.push .pairEnd).node false false
  | _ => emitEmpty t.start (g.become .pairEnd)

def pairEnd (g : Grammar) : Step := do
  let t ← g.peek
  emit .mappingEnd t.start (g.become .flowSequenceEntry)

def flowMappingEnd (g : Grammar) (t : Token) : Step :=
  emit .mappingEnd t.start g.close.advance.pop

def flowMappingItem (g : Grammar) (t : Token) : Step :=
  match t.kind with
  | .key => do
      let g := g.advance
      let next ← g.peek
      match next.kind with
      | .value | .flowEntry | .flowMappingEnd => emitEmpty next.start (g.become .flowMappingValue)
      | _ => (g.push .flowMappingValue).node false false
  | .flowMappingEnd => g.flowMappingEnd t
  | _ => (g.push .flowMappingNoValue).node false false

def flowMappingKey (g : Grammar) (first : Bool) : Step := do
  let t ← g.peek
  if first || t.kind = .flowMappingEnd then g.flowMappingItem t
  else if t.kind = .flowEntry then
    let g := g.advance
    g.flowMappingItem (← g.peek)
  else g.failInside .flowMapping .flowMappingEnd t.start

def flowMappingValue (g : Grammar) : Step := do
  let t ← g.peek
  match t.kind with
  | .value =>
      let g := g.advance
      let next ← g.peek
      match next.kind with
      | .flowEntry | .flowMappingEnd => emitEmpty next.start (g.become .flowMappingKey)
      | _ => (g.push .flowMappingKey).node false false
  | _ => emitEmpty t.start (g.become .flowMappingKey)

def flowMappingNoValue (g : Grammar) : Step := do
  let t ← g.peek
  emitEmpty t.start (g.become .flowMappingKey)

def step (g : Grammar) : Step :=
  match g.expect with
  | .firstDocument => g.document true
  | .document => g.document false
  | .documentContent => g.documentContent
  | .documentEnd => g.documentEnd
  | .blockNode => g.node true false
  | .blockSequenceEntry => g.blockSequenceEntry
  | .indentlessEntry => g.indentlessEntry
  | .blockMappingKey => g.blockMappingKey
  | .blockMappingValue => g.blockMappingValue
  | .flowSequenceFirst => g.flowSequenceEntry true
  | .flowSequenceEntry => g.flowSequenceEntry false
  | .pairKey => g.pairKey
  | .pairValue => g.pairValue
  | .pairEnd => g.pairEnd
  | .flowMappingFirst => g.flowMappingKey true
  | .flowMappingKey => g.flowMappingKey false
  | .flowMappingValue => g.flowMappingValue
  | .flowMappingNoValue => g.flowMappingNoValue
  | .nothing => .error g.input.failure

end Grammar

-- The events of a text as far as it can be read, and the error that stopped the reading.
structure Events where
  events : List Event
  failure : Option SyntaxError

namespace Events

def ofGrammar : Nat → Grammar → Events
  | 0, _ => ⟨[], none⟩
  | fuel + 1, g =>
      match g.step with
      | .error failure => ⟨[], failure⟩
      | .ok (event, g) =>
          if event.kind = .streamEnd then ⟨[event], none⟩
          else
            let more := ofGrammar fuel g
            ⟨event :: more.events, more.failure⟩

-- Each token gives at most three events.
def ofTokens (input : Tokens) : Events :=
  ofGrammar (4 * input.tokens.length + 8) (Grammar.ofTokens input)

def ofText (text : List Char) : Events := ofTokens (Tokens.ofText text)

end Events

end StepCommand.Yaml
