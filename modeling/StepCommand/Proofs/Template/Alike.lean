import StepCommand.Proofs.Template.Fit

namespace StepCommand.Template

namespace Shape

mutual

def Alike : Shape → Value → Value → Prop
  | any, v, w => v = w
  | text, v, w => v = w
  | tag, v, w => v = w
  | list item, v, w =>
      ∃ items others, v = .list items ∧ w = .list others ∧ List.Forall₂ item.Alike items others
  | record fields, v, w =>
      ∃ entries others, v = .object entries ∧ w = .object others ∧
        entries.isEmpty = others.isEmpty ∧ AlikeFields fields entries others

-- Fields that the shape does not have may differ.
def AlikeFields : List (String × Shape) → List (String × Value) → List (String × Value) → Prop
  | [], _, _ => True
  | (name, shape) :: rest, entries, others =>
      (∃ v w, entries.lookup name = some v ∧ others.lookup name = some w ∧ shape.Alike v w) ∧
        AlikeFields rest entries others

end

-- Nothing in a value of the shape is left open.
def isWhole : Shape → Bool
  | any => true
  | text => true
  | tag => true
  | list item => item.isWhole
  | record _ => false

variable {shape inner item : Shape} {v w : Value} {name : String}

@[simp] theorem alike_any : any.Alike v w ↔ v = w := Iff.rfl

@[simp] theorem alike_text : text.Alike v w ↔ v = w := Iff.rfl

@[simp] theorem alike_tag : tag.Alike v w ↔ v = w := Iff.rfl

@[simp] theorem alikeFields_nil (entries others : List (String × Value)) :
    AlikeFields [] entries others := trivial

@[simp] theorem alikeFields_cons (rest : List (String × Shape))
    (entries others : List (String × Value)) :
    AlikeFields ((name, shape) :: rest) entries others ↔
      (∃ v w, entries.lookup name = some v ∧ others.lookup name = some w ∧ shape.Alike v w) ∧
        AlikeFields rest entries others := Iff.rfl

theorem eq_of_alike : ∀ {shape : Shape} {v w : Value}, shape.isWhole = true → shape.Alike v w →
    v = w
  | any, _, _, _, h => h
  | text, _, _, _, h => h
  | tag, _, _, _, h => h
  | list item, _, _, hw, h => by
      obtain ⟨items, others, rfl, rfl, hitems⟩ := h
      have hitem : item.isWhole = true := hw
      have heq : List.Forall₂ Eq items others := hitems.imp fun v w => eq_of_alike hitem
      rw [List.forall₂_eq_eq_eq] at heq
      rw [heq]

-- A record is printed without its fields.
theorem printed_eq_of_alike : ∀ {shape : Shape} {v w : Value}, shape.Alike v w →
    printed v = printed w
  | any, _, _, h => by rw [h]
  | text, _, _, h => by rw [h]
  | tag, _, _, h => by rw [h]
  | list item, _, _, h => by
      obtain ⟨items, others, rfl, rfl, hitems⟩ := h
      have hprinted : printedItems items = printedItems others := by
        induction hitems with
        | nil => rfl
        | cons hitem _ ih => rw [printedItems, printedItems, printed_eq_of_alike hitem, ih]
      rw [printed, printed, hprinted]
  | record _, _, _, h => by
      obtain ⟨entries, others, rfl, rfl, _⟩ := h
      rw [printed, printed]

theorem isTrue_eq_of_alike (h : shape.Alike v w) : isTrue (some v) = isTrue (some w) := by
  cases shape with
  | list item =>
      obtain ⟨items, others, rfl, rfl, hitems⟩ := h
      cases hitems with
      | nil => rfl
      | cons _ _ => rfl
  | record fields =>
      obtain ⟨entries, others, rfl, rfl, hempty, _⟩ := h
      simp only [isTrue, hempty]
  | _ => rw [show v = w from h]

theorem lookup_alike {fields : List (String × Shape)} {entries others : List (String × Value)}
    (ha : AlikeFields fields entries others) (hf : fields.lookup name = some shape) :
    ∃ v w, entries.lookup name = some v ∧ others.lookup name = some w ∧ shape.Alike v w := by
  induction fields with
  | nil => simp at hf
  | cons field rest ih =>
      rcases field with ⟨other, inner⟩
      obtain ⟨hfirst, hrest⟩ := ha
      simp only [List.lookup_cons] at hf
      split at hf
      next he =>
        cases hf
        rw [eq_of_beq he]
        exact hfirst
      next => exact ih hrest hf

theorem member_alike (ha : shape.Alike v w) (hm : shape.member name = some inner) :
    ∃ x y, Template.member name v = .ok (some x) ∧ Template.member name w = .ok (some y) ∧
      inner.Alike x y := by
  cases shape with
  | record fields =>
      obtain ⟨entries, others, rfl, rfl, _, hfields⟩ := ha
      obtain ⟨x, y, hx, hy, halike⟩ := lookup_alike hfields hm
      exact ⟨x, y, by simp only [Template.member, hx], by simp only [Template.member, hy], halike⟩
  | _ => simp [member] at hm

theorem descend_alike {names : List String} (ha : shape.Alike v w)
    (hd : shape.descend names = some inner) :
    ∃ x y, Template.descend names v = .ok (some x) ∧ Template.descend names w = .ok (some y) ∧
      inner.Alike x y := by
  induction names generalizing shape v w with
  | nil =>
      cases hd
      exact ⟨v, w, rfl, rfl, ha⟩
  | cons name rest ih =>
      obtain ⟨next, hm, hn⟩ := Option.bind_eq_some_iff.mp hd
      obtain ⟨x, y, hx, hy, halike⟩ := member_alike ha hm
      obtain ⟨last, other, hl, ho, hlast⟩ := ih halike hn
      exact ⟨last, other, by simp only [Template.descend, hx, hl],
        by simp only [Template.descend, hy, ho], hlast⟩

mutual

theorem alike_self : ∀ {shape : Shape} {v : Value}, shape.Admits v → shape.Alike v v
  | any, _, _ => rfl
  | text, _, _ => rfl
  | tag, _, _ => rfl
  | list item, _, h => by
      obtain ⟨items, rfl, hitems⟩ := h
      exact ⟨items, items, rfl, rfl, List.forall₂_same.mpr fun x hx => alike_self (hitems x hx)⟩
  | record fields, _, h => by
      obtain ⟨entries, rfl, hfields⟩ := h
      exact ⟨entries, entries, rfl, rfl, rfl, alikeFields_of_lookup hfields fun _ _ => rfl⟩

-- Records are alike in the fields that they have in common.
theorem alikeFields_of_lookup : ∀ {fields : List (String × Shape)}
    {entries others : List (String × Value)}, AdmitsFields fields entries →
    (∀ name ∈ fields.map Prod.fst, others.lookup name = entries.lookup name) →
    AlikeFields fields entries others
  | [], _, _, _, _ => trivial
  | (name, shape) :: rest, entries, others, h, hlookup => by
      obtain ⟨⟨v, hv, hadmits⟩, hrest⟩ := h
      have hsame : others.lookup name = some v := (hlookup name List.mem_cons_self).trans hv
      exact ⟨⟨v, v, hv, hsame, alike_self hadmits⟩,
        alikeFields_of_lookup hrest fun other ho => hlookup other (List.mem_cons_of_mem _ ho)⟩

end

-- The shape with fewer fields known.
def without (names : List String) : Shape → Shape
  | record fields => record (fields.filter fun field => field.1 ∉ names)
  | shape => shape

theorem admitsFields_filter {fields : List (String × Shape)} {entries : List (String × Value)}
    (p : String × Shape → Bool) (h : AdmitsFields fields entries) :
    AdmitsFields (fields.filter p) entries := by
  induction fields with
  | nil => exact h
  | cons field rest ih =>
      rcases field with ⟨name, shape⟩
      rw [List.filter_cons]
      split
      next => exact ⟨h.1, ih h.2⟩
      next => exact ih h.2

theorem alike_without {fields : List (String × Shape)} {entries others : List (String × Value)}
    {names : List String} (h : (record fields).Admits (.object entries))
    (hempty : entries.isEmpty = others.isEmpty)
    (hsame : ∀ name, name ∉ names → others.lookup name = entries.lookup name) :
    ((record fields).without names).Alike (.object entries) (.object others) := by
  refine ⟨entries, others, rfl, rfl, hempty, alikeFields_of_lookup ?_ ?_⟩
  · exact admitsFields_filter _ ((admits_record _ _).mp h)
  · intro name hname
    obtain ⟨field, hfield, rfl⟩ := List.mem_map.mp hname
    exact hsame _ (by simpa using (List.mem_filter.mp hfield).2)

end Shape

namespace Shape

def Frame.Alike (known : Frame) (frame other : Template.Frame) : Prop :=
  known.value.Alike frame.value other.value ∧ frame.position = other.position

def AlikeFrames : List Frame → List Template.Frame → List Template.Frame → Prop
  | [], [], [] => True
  | known :: rest, frame :: frames, other :: others =>
      known.Alike frame other ∧ AlikeFrames rest frames others
  | _, _, _ => False

namespace Scope

def Alike (known : Scope) (scope other : Template.Scope) : Prop :=
  known.record.Alike scope.record other.record ∧
    AlikeFrames (known.inner :: known.outer) (scope.inner :: scope.outer)
      (other.inner :: other.outer)

variable {known : Scope} {scope other : Template.Scope}

theorem alike_ofRecord {shape : Shape} {v w : Value} (h : shape.Alike v w) :
    (ofRecord shape).Alike (Template.Scope.ofRecord v) (Template.Scope.ofRecord w) :=
  ⟨h, ⟨h, rfl⟩, trivial⟩

theorem Alike.enter {knownFrame : Frame} {frame otherFrame : Template.Frame}
    (hs : known.Alike scope other) (hf : knownFrame.Alike frame otherFrame) :
    (known.enter knownFrame).Alike (scope.enter frame) (other.enter otherFrame) :=
  ⟨hs.1, hf, hs.2⟩

end Scope

theorem getElem?_alike {knowns : List Frame} {frames others : List Template.Frame} {i : Nat}
    {known : Frame} (h : AlikeFrames knowns frames others) (hk : knowns[i]? = some known) :
    ∃ frame other, frames[i]? = some frame ∧ others[i]? = some other ∧
      known.Alike frame other := by
  induction i generalizing knowns frames others with
  | zero =>
      match knowns, frames, others, h with
      | first :: _, frame :: _, other :: _, h =>
          cases hk
          exact ⟨frame, other, rfl, rfl, h.1⟩
  | succ i ih =>
      match knowns, frames, others, h with
      | _ :: rest, _ :: frames, _ :: others, h => exact ih h.2 hk

end Shape

def Argument.isWhole (known : Shape.Scope) (argument : Argument) : Bool :=
  (argument.shape? known).any Shape.isWhole

mutual

def Node.reads (table : Table) : Node → Shape.Scope → Bool
  | .text _, _ => true
  | .print (.path p), known => (table.helper? p.text).isSome || (p.shape? known).isSome
  | .print (.literal _), _ => true
  | .print (.call _ arguments), known => arguments.all (Argument.isWhole known)
  | .call _ arguments, known => arguments.all (Argument.isWhole known)
  | .ifTrue condition body, known => (condition.shape? known).isSome && readsAll table body known
  | .ifFalse condition body, known => (condition.shape? known).isSome && readsAll table body known
  | .each items body, known =>
      match items.shape? known with
      | some (.list item) => readsAll table body (known.enter ⟨item, true⟩)
      | _ => false
  | .within value body, known =>
      match value.shape? known with
      | some shape => readsAll table body (known.enter ⟨shape, false⟩)
      | none => false

def readsAll (table : Table) : List Node → Shape.Scope → Bool
  | [], _ => true
  | node :: rest, known => node.reads table known && readsAll table rest known

end

-- The template reads no more of its record than the shape has.
def ReadsOnly (table : Table) (template : Template) (shape : Shape) : Prop :=
  readsAll table template (Shape.Scope.ofRecord shape) = true

instance (table : Table) (template : Template) (shape : Shape) :
    Decidable (ReadsOnly table template shape) :=
  inferInstanceAs (Decidable (_ = true))

variable {known : Shape.Scope} {scope other : Scope} {shape item : Shape} {table : Table}

theorem Path.eval_alike {p : Path} (hs : known.Alike scope other)
    (hp : p.shape? known = some shape) :
    ∃ v w, p.eval scope = .ok v ∧ p.eval other = .ok w ∧ Option.Rel shape.Alike v w := by
  rcases p with ⟨text, target⟩
  cases target with
  | value outward names =>
      obtain ⟨frame, hf, hd⟩ := Option.bind_eq_some_iff.mp hp
      obtain ⟨found, otherFound, hfound, hother, halike⟩ := Shape.getElem?_alike hs.2 hf
      obtain ⟨x, y, hx, hy, hxy⟩ := Shape.descend_alike halike.1 hd
      refine ⟨some x, some y, ?_, ?_, .some hxy⟩
      · simpa only [Path.eval, Scope.value, Scope.frame?, hfound, Option.getD_some] using hx
      · simpa only [Path.eval, Scope.value, Scope.frame?, hother, Option.getD_some] using hy
  | record names =>
      obtain ⟨x, y, hx, hy, hxy⟩ := Shape.descend_alike hs.1 hp
      exact ⟨some x, some y, hx, hy, .some hxy⟩
  | position outward name =>
      obtain ⟨frame, hf, hif⟩ := Option.bind_eq_some_iff.mp hp
      split at hif
      next =>
        cases hif
        obtain ⟨found, otherFound, hfound, hother, halike⟩ := Shape.getElem?_alike hs.2 hf
        refine ⟨found.position.lookup name, found.position.lookup name, ?_, ?_, ?_⟩
        · simp only [Path.eval, Scope.position?, Scope.frame?, hfound, Option.bind_some]
        · simp only [Path.eval, Scope.position?, Scope.frame?, hother, Option.bind_some,
            halike.2]
        · cases found.position.lookup name with
          | none => exact .none
          | some value => exact .some rfl
      next => cases hif

theorem Argument.eval_alike (table : Table) {argument : Argument} (hs : known.Alike scope other)
    (ha : argument.shape? known = some shape) :
    ∃ path v w, argument.eval table scope = .ok ⟨path, v⟩ ∧
      argument.eval table other = .ok ⟨path, w⟩ ∧ Option.Rel shape.Alike v w := by
  cases argument with
  | path p =>
      obtain ⟨v, w, hv, hw, hvw⟩ := Path.eval_alike hs ha
      exact ⟨some p.text, v, w, by rw [Argument.eval, hv]; rfl, by rw [Argument.eval, hw]; rfl, hvw⟩
  | literal value =>
      cases ha
      exact ⟨none, some value, some value, by rw [Argument.eval], by rw [Argument.eval], .some rfl⟩
  | call helper arguments => cases ha

theorem printGiven_alike {path : Option String} {v w : Option Value}
    (h : Option.Rel shape.Alike v w) : printGiven ⟨path, v⟩ = printGiven ⟨path, w⟩ := by
  cases h with
  | none => rfl
  | some h => simp only [printGiven, Shape.printed_eq_of_alike h]

theorem isTrue_alike {v w : Option Value} (h : Option.Rel shape.Alike v w) :
    isTrue v = isTrue w := by
  cases h with
  | none => rfl
  | some h => exact Shape.isTrue_eq_of_alike h

theorem Argument.eval_eq_of_isWhole {argument : Argument} (hs : known.Alike scope other)
    (ha : argument.isWhole known = true) :
    argument.eval table scope = argument.eval table other := by
  obtain ⟨shape, hshape, hwhole⟩ := (Option.any_eq_true _ _).mp ha
  obtain ⟨path, v, w, hv, hw, hvw⟩ := Argument.eval_alike table hs hshape
  rw [hv, hw]
  cases hvw with
  | none => rfl
  | some h => rw [Shape.eq_of_alike hwhole h]

theorem Argument.evalAll_eq_of_isWhole {arguments : List Argument} (hs : known.Alike scope other)
    (ha : arguments.all (Argument.isWhole known) = true) :
    Argument.evalAll table scope arguments = Argument.evalAll table other arguments := by
  induction arguments with
  | nil => rw [Argument.evalAll, Argument.evalAll]
  | cons argument rest ih =>
      simp only [List.all_cons, Bool.and_eq_true] at ha
      rw [Argument.evalAll, Argument.evalAll, eval_eq_of_isWhole hs ha.1, ih ha.2]

theorem isEmpty_mapIdx {α β : Type} (f : Nat → α → β) {xs ys : List α}
    (h : xs.length = ys.length) : (xs.mapIdx f).isEmpty = (ys.mapIdx f).isEmpty := by
  rw [Bool.eq_iff_iff, List.isEmpty_iff_length_eq_zero, List.isEmpty_iff_length_eq_zero,
    List.length_mapIdx, List.length_mapIdx, h]

theorem repeated_alike {fill fillOther : Frame → Except Fault String} {items others : List Value}
    (hfill : ∀ v w position, item.Alike v w → fill ⟨v, position⟩ = fillOther ⟨w, position⟩)
    (h : List.Forall₂ item.Alike items others) (label : Nat → String × Value) (first : Bool) :
    repeated fill first (items.mapIdx fun i v => (label i, v)) =
      repeated fillOther first (others.mapIdx fun i w => (label i, w)) := by
  induction h generalizing label first with
  | nil => rfl
  | cons hitem hrest ih =>
      have hempty := isEmpty_mapIdx (fun i v => (label (i + 1), v)) hrest.length_eq
      simp only [List.mapIdx_cons, repeated, hempty, hfill _ _ _ hitem, ih fun i => label (i + 1)]

mutual

theorem Node.fill_alike (table : Table) : ∀ (node : Node) (known : Shape.Scope)
    (scope other : Scope), known.Alike scope other → node.reads table known = true →
    node.fill table scope = node.fill table other
  | .text s, _, _, _, _, _ => by rw [Node.fill, Node.fill]
  | .print (.path p), known, scope, other, hs, hr => by
      rw [Node.fill, Node.fill, print, print]
      cases hhelper : table.helper? p.text with
      | some helper => rfl
      | none =>
          simp only [Node.reads, hhelper, Option.isSome_none, Bool.false_or] at hr
          obtain ⟨shape, hp⟩ := Option.isSome_iff_exists.mp hr
          have hpath : (Argument.path p).shape? known = some shape := hp
          obtain ⟨path, v, w, hv, hw, hvw⟩ := Argument.eval_alike table hs hpath
          simp only [hv, hw, bind, Except.bind, printGiven_alike hvw]
  | .print (.literal _), _, _, _, _, _ => by rw [Node.fill, Node.fill, print, print]
  | .print (.call helper arguments), known, scope, other, hs, hr => by
      simp only [Node.reads] at hr
      rw [Node.fill, Node.fill, print, print, Argument.eval, Argument.eval,
        Argument.evalAll_eq_of_isWhole hs hr]
  | .call helper arguments, known, scope, other, hs, hr => by
      simp only [Node.reads] at hr
      rw [Node.fill, Node.fill, callNode, callNode, Argument.evalAll_eq_of_isWhole hs hr]
  | .ifTrue condition body, known, scope, other, hs, hr => by
      simp only [Node.reads, Bool.and_eq_true] at hr
      obtain ⟨shape, hc⟩ := Option.isSome_iff_exists.mp hr.1
      obtain ⟨path, v, w, hv, hw, hvw⟩ := Argument.eval_alike table hs hc
      rw [Node.fill, Node.fill, hv, hw]
      simp only [bind, Except.bind, isTrue_alike hvw, fillAll_alike table body known _ _ hs hr.2]
  | .ifFalse condition body, known, scope, other, hs, hr => by
      simp only [Node.reads, Bool.and_eq_true] at hr
      obtain ⟨shape, hc⟩ := Option.isSome_iff_exists.mp hr.1
      obtain ⟨path, v, w, hv, hw, hvw⟩ := Argument.eval_alike table hs hc
      rw [Node.fill, Node.fill, hv, hw]
      simp only [bind, Except.bind, isTrue_alike hvw, fillAll_alike table body known _ _ hs hr.2]
  | .each items body, known, scope, other, hs, hr => by
      simp only [Node.reads] at hr
      split at hr
      next item hitem =>
        obtain ⟨path, v, w, hv, hw, hvw⟩ := Argument.eval_alike table hs hitem
        rw [Node.fill, Node.fill, hv, hw]
        cases hvw with
        | none => rfl
        | some h =>
            obtain ⟨values, others, rfl, rfl, hvalues⟩ := h
            refine repeated_alike ?_ hvalues (fun i => ("index", .int i)) true
            intro v w position hvw
            exact fillAll_alike table body _ _ _ (hs.enter ⟨hvw, rfl⟩) hr
      next => simp at hr
  | .within value body, known, scope, other, hs, hr => by
      simp only [Node.reads] at hr
      split at hr
      next shape hshape =>
        obtain ⟨path, v, w, hv, hw, hvw⟩ := Argument.eval_alike table hs hshape
        rw [Node.fill, Node.fill, hv, hw]
        cases hvw with
        | none => rfl
        | some h =>
            have hframe : Shape.Frame.Alike ⟨shape, false⟩ ⟨_, []⟩ ⟨_, []⟩ := ⟨h, rfl⟩
            have hbody := fillAll_alike table body _ _ _ (hs.enter hframe) hr
            simp only [bind, Except.bind, Shape.isTrue_eq_of_alike h, hbody]
      next => simp at hr

theorem fillAll_alike (table : Table) : ∀ (nodes : List Node) (known : Shape.Scope)
    (scope other : Scope), known.Alike scope other → readsAll table nodes known = true →
    fillAll table nodes scope = fillAll table nodes other
  | [], _, _, _, _, _ => by rw [fillAll, fillAll]
  | node :: rest, known, scope, other, hs, hr => by
      simp only [readsAll, Bool.and_eq_true] at hr
      rw [fillAll, fillAll, Node.fill_alike table node known _ _ hs hr.1,
        fillAll_alike table rest known _ _ hs hr.2]

end

-- Records that are alike in all that a template reads fill it with the same text, whatever else
-- they hold.
theorem render_alike {template : Template} {v w : Value} (hr : ReadsOnly table template shape)
    (h : shape.Alike v w) : render table template v = render table template w :=
  fillAll_alike table template _ _ _ (Shape.Scope.alike_ofRecord h) hr

end StepCommand.Template
