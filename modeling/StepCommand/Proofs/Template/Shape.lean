import Mathlib.Data.List.Forall2
import StepCommand.Template.Render

namespace StepCommand.Template

-- What is known of a value. A tag is the text that names a parameter type.
inductive Shape where
  | any
  | text
  | tag
  | list (item : Shape)
  | record (fields : List (String × Shape))

namespace Shape

mutual

def Admits : Shape → Value → Prop
  | any, _ => True
  | text, value => ∃ s, value = .text s
  | tag, value => ∃ kind : ParameterType, value = .text kind.tag
  | list item, value => ∃ items, value = .list items ∧ ∀ x ∈ items, item.Admits x
  | record fields, value => ∃ entries, value = .object entries ∧ AdmitsFields fields entries

-- A record may have more fields than those that are known.
def AdmitsFields : List (String × Shape) → List (String × Value) → Prop
  | [], _ => True
  | (name, shape) :: rest, entries =>
      (∃ value, entries.lookup name = some value ∧ shape.Admits value) ∧ AdmitsFields rest entries

end

def isText : Shape → Bool
  | text => true
  | tag => true
  | _ => false

def member (name : String) : Shape → Option Shape
  | record fields => fields.lookup name
  | _ => none

def descend : List String → Shape → Option Shape
  | [], shape => some shape
  | name :: rest, shape => (shape.member name).bind (descend rest)

@[simp] theorem admits_any (value : Value) : any.Admits value := trivial

@[simp] theorem admits_text (s : String) : text.Admits (.text s) := ⟨s, rfl⟩

@[simp] theorem admits_tag (kind : ParameterType) : tag.Admits (.text kind.tag) := ⟨kind, rfl⟩

@[simp] theorem admits_record (fields : List (String × Shape)) (entries : List (String × Value)) :
    (record fields).Admits (.object entries) ↔ AdmitsFields fields entries := by
  simp [Admits]

@[simp] theorem admitsFields_nil (entries : List (String × Value)) :
    AdmitsFields [] entries := trivial

@[simp] theorem admitsFields_cons (name : String) (shape : Shape) (rest : List (String × Shape))
    (entries : List (String × Value)) : AdmitsFields ((name, shape) :: rest) entries ↔
      (∃ value, entries.lookup name = some value ∧ shape.Admits value) ∧
        AdmitsFields rest entries := Iff.rfl

theorem exists_text_of_isText {shape : Shape} {value : Value} (hs : shape.isText = true)
    (hv : shape.Admits value) : ∃ s, value = .text s := by
  cases shape with
  | text => exact hv
  | tag =>
      obtain ⟨kind, rfl⟩ := hv
      exact ⟨_, rfl⟩
  | _ => simp [isText] at hs

theorem admits_list_map {α : Type} {item : Shape} {f : α → Value} (h : ∀ x, item.Admits (f x))
    (xs : List α) : (list item).Admits (.list (xs.map f)) := by
  refine ⟨_, rfl, ?_⟩
  intro x hx
  obtain ⟨y, _, rfl⟩ := List.mem_map.mp hx
  exact h y

theorem lookup_admits {fields : List (String × Shape)} {entries : List (String × Value)}
    {name : String} {shape : Shape} (ha : AdmitsFields fields entries)
    (hf : fields.lookup name = some shape) :
    ∃ value, entries.lookup name = some value ∧ shape.Admits value := by
  induction fields with
  | nil => simp at hf
  | cons field rest ih =>
      rcases field with ⟨other, inner⟩
      obtain ⟨hfirst, hrest⟩ := ha
      simp only [List.lookup_cons] at hf
      split at hf
      next he =>
        cases hf
        rw [eq_of_beq he]
        exact hfirst
      next => exact ih hrest hf

theorem member_admits {shape inner : Shape} {value : Value} {name : String}
    (ha : shape.Admits value) (hm : shape.member name = some inner) :
    ∃ found, Template.member name value = .ok (some found) ∧ inner.Admits found := by
  cases shape with
  | record fields =>
      obtain ⟨entries, rfl, hfields⟩ := ha
      obtain ⟨found, hfound, hadmits⟩ := lookup_admits hfields hm
      exact ⟨found, by simp only [Template.member, hfound], hadmits⟩
  | _ => simp [member] at hm

-- What a path leads to in the shape, it leads to in the value.
theorem descend_admits {shape inner : Shape} {value : Value} {names : List String}
    (ha : shape.Admits value) (hd : shape.descend names = some inner) :
    ∃ found, Template.descend names value = .ok (some found) ∧ inner.Admits found := by
  induction names generalizing shape value with
  | nil =>
      cases hd
      exact ⟨value, rfl, ha⟩
  | cons name rest ih =>
      obtain ⟨next, hm, hn⟩ := Option.bind_eq_some_iff.mp hd
      obtain ⟨found, hf, hadmits⟩ := member_admits ha hm
      obtain ⟨last, hl, hlast⟩ := ih hadmits hn
      exact ⟨last, by simp only [Template.descend, hf, hl], hlast⟩

end Shape

-- A part that is repeated knows where it stands.
structure Shape.Frame where
  value : Shape
  repeated : Bool := false

structure Shape.Scope where
  record : Shape
  inner : Shape.Frame
  outer : List Shape.Frame := []

namespace Shape

def Frame.Admits (known : Frame) (frame : Template.Frame) : Prop :=
  known.value.Admits frame.value ∧
    (known.repeated = true → ∀ name ∈ ["first", "last"], (frame.position.lookup name).isSome)

namespace Scope

def ofRecord (record : Shape) : Scope where
  record := record
  inner := { value := record }

def enter (known : Scope) (frame : Frame) : Scope :=
  ⟨known.record, frame, known.inner :: known.outer⟩

def Admits (known : Scope) (scope : Template.Scope) : Prop :=
  known.record.Admits scope.record ∧ known.inner.Admits scope.inner ∧
    List.Forall₂ Frame.Admits known.outer scope.outer

def frame? (known : Scope) (outward : Nat) : Option Frame :=
  (known.inner :: known.outer)[outward]?

theorem admits_ofRecord {shape : Shape} {record : Value} (h : shape.Admits record) :
    (ofRecord shape).Admits (Template.Scope.ofRecord record) :=
  ⟨h, ⟨h, by simp [ofRecord]⟩, .nil⟩

theorem Admits.enter {known : Scope} {scope : Template.Scope} {knownFrame : Frame}
    {frame : Template.Frame} (hs : known.Admits scope) (hf : knownFrame.Admits frame) :
    (known.enter knownFrame).Admits (scope.enter frame) :=
  ⟨hs.1, hf, .cons hs.2.1 hs.2.2⟩

theorem frame?_admits {known : Scope} {scope : Template.Scope} {outward : Nat} {knownFrame : Frame}
    (hs : known.Admits scope) (hf : known.frame? outward = some knownFrame) :
    ∃ frame, scope.frame? outward = some frame ∧ knownFrame.Admits frame := by
  have hall : List.Forall₂ Frame.Admits (known.inner :: known.outer) (scope.inner :: scope.outer) :=
    .cons hs.2.1 hs.2.2
  obtain ⟨hlt, hget⟩ := List.getElem?_eq_some_iff.mp hf
  have hlt' : outward < (scope.inner :: scope.outer).length := hall.length_eq ▸ hlt
  refine ⟨_, List.getElem?_eq_getElem hlt', ?_⟩
  have h := List.forall₂_iff_get.mp hall
  simpa only [List.get_eq_getElem, hget] using h.2 outward hlt hlt'

end Scope

end Shape

end StepCommand.Template
