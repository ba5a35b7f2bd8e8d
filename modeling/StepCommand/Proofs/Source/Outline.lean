import Mathlib.Data.List.Forall2
import StepCommand.Proofs.Text.Line
import StepCommand.Template.Build

namespace StepCommand.Source

open Template (tabs)

-- A type of the package, one of another package, or a pointer.
inductive TypeName where
  | own (name : String)
  | foreign (name : String)
  | pointer (type : TypeName)
deriving DecidableEq, Repr

structure Variable where
  name : String
  type : TypeName
deriving DecidableEq, Repr

structure Signature where
  name : String
  parameters : List Variable
  result : Option TypeName
deriving DecidableEq, Repr

inductive Argument where
  | value (name : String)
  | address (name : String)
  | empty (typeName : String)
  | nil
deriving DecidableEq, Repr

structure Call where
  function : String
  arguments : List Argument
deriving DecidableEq, Repr

-- A variable may be declared, or be given an empty value, one that goes on in the next lines or the
-- result of a call. A call may also stand alone or be the value of a key.
inductive Item where
  | struct (name : String)
  | interface (name : String)
  | function (signature : Signature)
  | declared (v : Variable)
  | empty (v : Variable)
  | opened (v : Variable)
  | result (name : String) (c : Call)
  | call (c : Call)
  | entry (key : String) (c : Call)
deriving DecidableEq, Repr

structure Line where
  depth : Nat
  item : Item
deriving DecidableEq, Repr

abbrev Outline := List Line

def TypeName.text : TypeName → String
  | own name => name
  | foreign name => name
  | pointer type => "*" ++ type.text

def Variable.text (v : Variable) : String := v.name ++ (" " ++ v.type.text)

def Signature.text (s : Signature) : String :=
  "func " ++ (s.name ++ ("(" ++ (String.intercalate ", " (s.parameters.map Variable.text) ++
    (")" ++ (s.result.elim "" (fun type => " " ++ type.text) ++ " \x7b")))))

def Argument.text : Argument → String
  | value name => name
  | address name => "&" ++ name
  | empty typeName => "&" ++ (typeName ++ "\x7b\x7d")
  | nil => "nil"

def Call.text (c : Call) : String :=
  c.function ++ ("(" ++ (String.intercalate ", " (c.arguments.map Argument.text) ++ ")"))

def Item.text : Item → String
  | struct name => "type " ++ (name ++ " struct \x7b")
  | interface name => "type " ++ (name ++ " interface \x7b")
  | function signature => signature.text
  | declared v => "var " ++ v.text
  | empty v => v.name ++ (" := " ++ (v.type.text ++ "\x7b\x7d"))
  | opened v => v.name ++ (" := " ++ (v.type.text ++ "\x7b"))
  | result name c => name ++ (" := " ++ c.text)
  | call c => c.text
  | entry key c => "\"" ++ (key ++ ("\": " ++ (c.text ++ ",")))

def Line.text (line : Line) : String := tabs line.depth ++ line.item.text

-- The innermost declaration of a name comes first.
def typeOf? (scope : List Variable) (name : String) : Option TypeName :=
  (scope.find? fun v => v.name = name).map Variable.type

-- A variable of any type may be passed where an interface is asked for: whether the type has the
-- methods of the interface is not looked at.
inductive HasType (interfaces : List String) (scope : List Variable) : Argument → TypeName → Prop
  | value {name : String} {type : TypeName} (h : typeOf? scope name = some type) :
      HasType interfaces scope (.value name) type
  | implementing {name interface : String} {type : TypeName} (h : typeOf? scope name = some type)
      (hinterface : interface ∈ interfaces) :
      HasType interfaces scope (.value name) (.own interface)
  | address {name : String} {type : TypeName} (h : typeOf? scope name = some type) :
      HasType interfaces scope (.address name) (.pointer type)
  | empty (typeName : String) :
      HasType interfaces scope (.empty typeName) (.pointer (.own typeName))
  | nil (type : TypeName) : HasType interfaces scope .nil (.pointer type)

-- No variable stands in front of the function, or of another variable with a type of its own. The
-- names of the resources are not checked, so that it is not always so.
structure Call.IsClear (c : Call) (scope : List Variable) : Prop where
  function : ∀ v ∈ scope, v.name ≠ c.function
  others : ∀ v ∈ scope, ∀ w ∈ scope, v.name = w.name → v = w

theorem Call.IsClear.typeOf?_eq {c : Call} {scope : List Variable} {v : Variable}
    (h : c.IsClear scope) (hv : v ∈ scope) : typeOf? scope v.name = some v.type := by
  unfold typeOf?
  cases hfound : scope.find? fun w => w.name = v.name with
  | none => exact absurd (List.find?_eq_none.mp hfound v hv) (by simp)
  | some w =>
      have hname : w.name = v.name := by simpa using List.find?_some hfound
      rw [h.others w (List.mem_of_find?_eq_some hfound) v hv hname, Option.map_some]

structure Call.Fits (interfaces : List String) (scope : List Variable) (c : Call) (s : Signature) :
    Prop where
  name : c.function = s.name
  length : c.arguments.length = s.parameters.length
  types : c.IsClear scope →
    List.Forall₂ (HasType interfaces scope) c.arguments (s.parameters.map Variable.type)

theorem Call.Fits.of_nil {interfaces : List String} {scope : List Variable} (name : String)
    (result : Option TypeName) : Call.Fits interfaces scope ⟨name, []⟩ ⟨name, [], result⟩ :=
  ⟨rfl, rfl, fun _ => .nil⟩

def TypeName.names : TypeName → List String
  | own name => [name]
  | foreign _ => []
  | pointer type => type.names

def Argument.names : Argument → List String
  | empty typeName => [typeName]
  | _ => []

def Call.names (c : Call) : List String := c.function :: c.arguments.flatMap Argument.names

namespace Item

-- What the package has from this line.
def defines : Item → List String
  | struct name => [name]
  | interface name => [name]
  | function signature => [signature.name]
  | _ => []

-- What the package has to have for this line.
def uses : Item → List String
  | struct _ => []
  | interface _ => []
  | function signature =>
      signature.parameters.flatMap (fun v => v.type.names) ++
        signature.result.elim [] TypeName.names
  | declared v => v.type.names
  | empty v => v.type.names
  | opened v => v.type.names
  | result _ c => c.names
  | call c => c.names
  | entry _ c => c.names

def functions : Item → List Signature
  | function signature => [signature]
  | _ => []

def interfaces : Item → List String
  | interface name => [name]
  | _ => []

-- Each call is one of the functions. The scope of a function begins with its parameters.
def AreTyped (functions : List Signature) (interfaces : List String) :
    List Variable → List Item → Prop
  | _, [] => True
  | scope, struct _ :: rest => AreTyped functions interfaces scope rest
  | scope, interface _ :: rest => AreTyped functions interfaces scope rest
  | _, function signature :: rest => AreTyped functions interfaces signature.parameters rest
  | scope, declared v :: rest => AreTyped functions interfaces (v :: scope) rest
  | scope, empty v :: rest => AreTyped functions interfaces (v :: scope) rest
  | scope, opened v :: rest => AreTyped functions interfaces (v :: scope) rest
  | scope, result name c :: rest =>
      ∃ signature ∈ functions, c.Fits interfaces scope signature ∧
        ∃ type, signature.result = some type ∧
          AreTyped functions interfaces (⟨name, type⟩ :: scope) rest
  | scope, call c :: rest =>
      (∃ signature ∈ functions, c.Fits interfaces scope signature) ∧
        AreTyped functions interfaces scope rest
  | scope, entry _ c :: rest =>
      (∃ signature ∈ functions, c.Fits interfaces scope signature) ∧
        AreTyped functions interfaces scope rest

theorem areTyped_declared {functions : List Signature} {interfaces : List String}
    {scope vs : List Variable} {rest : List Item} :
    AreTyped functions interfaces scope (vs.map declared ++ rest) ↔
      AreTyped functions interfaces (vs.reverse ++ scope) rest := by
  induction vs generalizing scope with
  | nil => rfl
  | cons v vs ih =>
      rw [List.map_cons, List.cons_append, AreTyped, ih, List.reverse_cons, List.append_assoc,
        List.singleton_append]

theorem areTyped_struct {functions : List Signature} {interfaces : List String}
    {scope : List Variable} {names : List String} {rest : List Item} :
    AreTyped functions interfaces scope (names.map struct ++ rest) ↔
      AreTyped functions interfaces scope rest := by
  induction names with
  | nil => rfl
  | cons name names ih => rw [List.map_cons, List.cons_append, AreTyped, ih]

end Item

namespace Outline

variable (outline : Outline)

def lines : List String := outline.map Line.text

def items : List Item := outline.map Line.item

def defines : List String := outline.items.flatMap Item.defines

def uses : List String := outline.items.flatMap Item.uses

def functions : List Signature := outline.items.flatMap Item.functions

def interfaces : List String := outline.items.flatMap Item.interfaces

-- The outline can be compiled together with the lines of the package.
structure Resolves (package : Outline) : Prop where
  defined : ∀ name ∈ outline.uses, name ∈ package.defines
  typed : Item.AreTyped package.functions package.interfaces [] outline.items

theorem items_append (o p : Outline) : items (o ++ p) = o.items ++ p.items := List.map_append

theorem defines_append (o p : Outline) : defines (o ++ p) = o.defines ++ p.defines := by
  rw [defines, items_append, List.flatMap_append, defines, defines]

theorem functions_append (o p : Outline) : functions (o ++ p) = o.functions ++ p.functions := by
  rw [functions, items_append, List.flatMap_append, functions, functions]

theorem interfaces_append (o p : Outline) :
    interfaces (o ++ p) = o.interfaces ++ p.interfaces := by
  rw [interfaces, items_append, List.flatMap_append, interfaces, interfaces]

end Outline

end StepCommand.Source
