import StepCommand.Yaml.Event.Grammar

namespace StepCommand.Yaml

-- A text that breaks off still has a tree: where the next node would stand it has a gap, so that
-- what comes before the gap can be read.
inductive Node where
  | scalar (mark : Mark) (tag : Option Tag) (style : Style) (text : String)
  | sequence (mark : Mark) (tag : Option Tag) (items : List Node)
  | mapping (mark : Mark) (tag : Option Tag) (entries : List (Node × Node))
  | aliasNode (mark : Mark) (anchor : Nat)
  | gap
deriving Inhabited, Repr

-- Why a tree has a gap.
inductive Break where
  | malformed (e : SyntaxError)
  | unknownAnchor (mark : Mark)
deriving Repr

-- A collection whose end has not been met; the items are kept last first.
inductive Frame where
  | sequence (mark : Mark) (tag : Option Tag) (anchor : Option Nat) (items : List Node)
  | mapping (mark : Mark) (tag : Option Tag) (anchor : Option Nat) (key : Option Node)
      (entries : List (Node × Node))

namespace Frame

def add (node : Node) : Frame → Frame
  | sequence mark tag anchor items => .sequence mark tag anchor (node :: items)
  | mapping mark tag anchor none entries => .mapping mark tag anchor (some node) entries
  | mapping mark tag anchor (some key) entries =>
      .mapping mark tag anchor none ((key, node) :: entries)

def anchor : Frame → Option Nat
  | sequence _ _ anchor _ => anchor
  | mapping _ _ anchor _ _ => anchor

def node : Frame → Node
  | sequence mark tag _ items => .sequence mark tag items.reverse
  | mapping mark tag _ none entries => .mapping mark tag entries.reverse
  | mapping mark tag _ (some key) entries => .mapping mark tag ((key, .gap) :: entries).reverse

end Frame

-- A name is bound to a number, and a number to the place of the node that last took it. A name that
-- is bound again takes the number that is free then, and so may the next name.
structure Anchors where
  names : List (String × Nat)
  places : List (Nat × Nat)
  nodes : List (Nat × Node)

namespace Anchors

def empty : Anchors := ⟨[], [], []⟩

-- `place` is the number of the event at which the node starts.
def bind (a : Anchors) (name : String) (place : Nat) : Anchors :=
  let number := a.names.length
  { a with
    names := (name, number) :: a.names.filter fun bound => bound.1 != name
    places := (number, place) :: a.places }

def enter (a : Anchors) (place : Option Nat) (node : Node) : Anchors :=
  match place with
  | some place => { a with nodes := (place, node) :: a.nodes }
  | none => a

def node? (a : Anchors) (number : Nat) : Option Node :=
  (a.places.lookup number).bind fun place => a.nodes.lookup place

end Anchors

-- `events` counts the events of the tree, and `complete` says that nothing follows it.
structure Document where
  root : Node
  anchors : Anchors
  broken : Option Break
  events : Nat
  complete : Bool

-- A document being put together.
structure Draft where
  frames : List Frame
  root : Option Node
  anchors : Anchors
  events : Nat

namespace Draft

def empty : Draft := ⟨[], none, Anchors.empty, 0⟩

-- Gives a finished node its place in the collection around it.
def add (d : Draft) (anchor : Option Nat) (node : Node) : Draft :=
  let anchors := d.anchors.enter anchor node
  match d.frames with
  | frame :: outer => { d with frames := frame.add node :: outer, anchors := anchors }
  | [] => { d with root := some node, anchors := anchors }

def anchorPlace (d : Draft) (p : Properties) : Option Nat := p.anchor.map fun _ => d.events

def bind (d : Draft) (p : Properties) : Draft :=
  match p.anchor with
  | some name => { d with anchors := d.anchors.bind name d.events }
  | none => d

def count (d : Draft) : Draft := { d with events := d.events + 1 }

def openFrame (d : Draft) (frame : Frame) : Draft := { d with frames := frame :: d.frames }

def closeFrame (d : Draft) : Draft :=
  match d.frames with
  | frame :: outer => { d with frames := outer }.add frame.anchor frame.node
  | [] => d

-- Closes what is open, innermost first, leaving a gap.
def breakOff : List Frame → Anchors → Node → Node × Anchors
  | [], anchors, node => (node, anchors)
  | frame :: outer, anchors, node =>
      let whole := (frame.add node).node
      breakOff outer (anchors.enter frame.anchor whole) whole

def broken (d : Draft) (why : Option Break) : Document :=
  let (root, anchors) := breakOff d.frames d.anchors (d.root.getD .gap)
  ⟨root, anchors, why, d.events, true⟩

end Draft

namespace Document

-- A text without documents reads as one that holds an empty scalar at its end.
def compose (failure : Option SyntaxError) : Draft → List Event → Document
  | d, [] => d.broken (failure.map .malformed)
  | d, event :: rest =>
      match event.kind with
      | .documentStart => compose failure d rest
      | .documentEnd =>
          let complete := match rest with
            | next :: _ => next.kind == .streamEnd
            | [] => false
          ⟨d.root.getD .gap, d.anchors, none, d.events, complete⟩
      | .streamEnd => ⟨.scalar event.mark none .plain "", d.anchors, none, 1, true⟩
      | .aliasNode name =>
          match d.anchors.names.lookup name with
          | none => d.broken (some (.unknownAnchor event.mark))
          | some number => compose failure (d.add none (.aliasNode event.mark number)).count rest
      | .scalar p style text =>
          let node := Node.scalar event.mark p.tag style text
          compose failure ((d.bind p).add (d.anchorPlace p) node).count rest
      | .sequenceStart p =>
          let frame := Frame.sequence event.mark p.tag (d.anchorPlace p) []
          compose failure ((d.bind p).openFrame frame).count rest
      | .mappingStart p =>
          let frame := Frame.mapping event.mark p.tag (d.anchorPlace p) none []
          compose failure ((d.bind p).openFrame frame).count rest
      | .sequenceEnd => compose failure d.closeFrame.count rest
      | .mappingEnd => compose failure d.closeFrame.count rest

def ofText (text : String) : Document :=
  let events := Events.ofText text.toList
  compose events.failure Draft.empty events.events

end Document

end StepCommand.Yaml
