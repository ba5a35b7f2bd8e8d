import StepCommand.Proofs.Template.Part
import StepCommand.Proofs.Text.Between
import StepCommand.Proofs.Text.Encoded

namespace StepCommand.Template

open Text (Between encoded)

-- The text that a part begins or ends with, if it is text there.
def leading : Template → String
  | .text s :: _ => s
  | _ => ""

def Node.trailing : Node → String
  | .text s => s
  | _ => ""

def isBetween (opening closing before after : String) : Bool :=
  (encoded opening).isSuffixOf (encoded before) && (encoded closing).isPrefixOf (encoded after)

-- Parts without such places are left out.
def around (wrap : Template → Node) : Template → Template
  | [] => []
  | body => [wrap body]

mutual

-- `before` and `after` are the texts of the template next to the node.
def Node.places (opening closing before after : String) : Node → Template
  | .text _ => []
  | .print argument =>
      if isBetween opening closing before after then [.print argument] else []
  | .call helper arguments =>
      if isBetween opening closing before after then [.call helper arguments] else []
  | .ifTrue condition body => around (.ifTrue condition) (placesFrom opening closing "" body)
  | .ifFalse condition body => around (.ifFalse condition) (placesFrom opening closing "" body)
  | .each items body => around (.each items) (placesFrom opening closing "" body)
  | .within value body => around (.within value) (placesFrom opening closing "" body)

def placesFrom (opening closing before : String) : Template → Template
  | [] => []
  | node :: rest =>
      node.places opening closing before (leading rest) ++
        placesFrom opening closing node.trailing rest

end

def placesBetween (opening closing : String) (template : Template) : Template :=
  placesFrom opening closing "" template

-- Where a repeated part comes to.
def frames (first : Bool) : List ((String × Value) × Value) → List Frame
  | [] => []
  | (label, item) :: rest =>
      ⟨item, [("first", .bool first), ("last", .bool rest.isEmpty), label]⟩ :: frames false rest

def holds (table : Table) (scope : Scope) (condition : Argument) : Bool :=
  (condition.eval table scope).toOption.any fun given => isTrue given.value

def framesOf (table : Table) (scope : Scope) (items : Argument) : List Frame :=
  ((items.eval table scope).bind itemsOf).toOption.elim [] (frames true)

def frameOf? (table : Table) (scope : Scope) (value : Argument) : Option Frame :=
  (value.eval table scope).toOption.bind fun given =>
    given.value.bind fun value => if isTrue (some value) then some { value } else none

mutual

def Node.texts (table : Table) : Node → Scope → List String
  | .text _, _ => []
  | .print argument, scope => (print table scope argument).toOption.toList
  | .call helper arguments, scope => (callNode table scope helper arguments).toOption.toList
  | .ifTrue condition body, scope =>
      if holds table scope condition then textsOf table body scope else []
  | .ifFalse condition body, scope =>
      if holds table scope condition then [] else textsOf table body scope
  | .each items body, scope =>
      (framesOf table scope items).flatMap fun frame => textsOf table body (scope.enter frame)
  | .within value body, scope =>
      (frameOf? table scope value).elim [] fun frame => textsOf table body (scope.enter frame)

def textsOf (table : Table) : Template → Scope → List String
  | [], _ => []
  | node :: rest, scope => node.texts table scope ++ textsOf table rest scope

end

variable {table : Table} {scope : Scope} {template rest : Template} {node : Node}
  {opening closing before after s t : String} {ss : List String}

@[simp] theorem textsOf_nil : textsOf table [] scope = [] := rfl

theorem textsOf_cons :
    textsOf table (node :: rest) scope = node.texts table scope ++ textsOf table rest scope := rfl

theorem textsOf_singleton : textsOf table [node] scope = node.texts table scope :=
  List.append_nil _

theorem textsOf_kept {kept : Bool} (h : node.texts table scope = ss) :
    textsOf table (if kept then [node] else []) scope = if kept then ss else [] := by
  cases kept with
  | true => exact textsOf_singleton.trans h
  | false => rfl

theorem textsOf_append :
    textsOf table (template ++ rest) scope =
      textsOf table template scope ++ textsOf table rest scope := by
  induction template with
  | nil => rfl
  | cons node template ih => simp only [List.cons_append, textsOf, ih, List.append_assoc]

theorem holds_of_eval {condition : Argument} {given : Given}
    (h : condition.eval table scope = .ok given) :
    holds table scope condition = isTrue given.value := by
  rw [holds, h]
  rfl

theorem framesOf_of_eval {items : Argument} {given : Given}
    {found : List ((String × Value) × Value)} (h : items.eval table scope = .ok given)
    (hfound : itemsOf given = .ok found) : framesOf table scope items = frames true found := by
  rw [framesOf, h, Except.bind, hfound]
  rfl

theorem frameOf?_of_eval {value : Argument} {given : Given} {found : Value}
    (h : value.eval table scope = .ok given) (hvalue : given.value = some found)
    (htrue : isTrue (some found) = true) :
    frameOf? table scope value = some { value := found } := by
  rw [frameOf?, h]
  simp only [Except.toOption, Option.bind_some, hvalue, htrue, if_true]

theorem textsOf_around {wrap : Template → Node} (h : (wrap []).texts table scope = []) :
    textsOf table (around wrap template) scope = (wrap template).texts table scope := by
  cases template with
  | nil => exact h.symm
  | cons node rest => exact textsOf_singleton

theorem exists_append_of_isBetween (h : isBetween opening closing before after = true) :
    (∃ p, before = p ++ opening) ∧ ∃ q, after = closing ++ q := by
  simp only [isBetween, Bool.and_eq_true, List.isSuffixOf_iff_suffix,
    List.isPrefixOf_iff_prefix] at h
  exact ⟨Text.exists_append_of_isSuffix h.1, Text.exists_append_of_isPrefix h.2⟩

theorem exists_append_of_fillAll (h : fillAll table template scope = .ok t) :
    ∃ q, t = leading template ++ q := by
  unfold leading
  split
  next s rest =>
    rw [fillAll_cons, fill_text, Except.ok_bind] at h
    obtain ⟨u, _, hu⟩ := Except.bind_ok_iff.mp h
    exact ⟨u, (Except.ok.inj hu).symm⟩
  next => exact ⟨t, String.empty_append.symm⟩

-- A place that is kept, or one that is passed over.
theorem between_of_place {text : String} {texts : List String}
    (hbefore : ∃ p, s = p ++ before) (hafter : ∃ q, t = after ++ q)
    (hrest : Between opening closing ss ("" ++ t))
    (htexts : texts = if isBetween opening closing before after then [text] else []) :
    Between opening closing (texts ++ ss) (s ++ (text ++ t)) := by
  subst htexts
  rw [String.empty_append] at hrest
  split
  next hkept =>
    obtain ⟨⟨p, rfl⟩, ⟨q, rfl⟩⟩ := exists_append_of_isBetween hkept
    obtain ⟨first, rfl⟩ := hbefore
    obtain ⟨last, rfl⟩ := hafter
    simp only [String.append_assoc] at hrest ⊢
    rw [← String.append_assoc]
    exact hrest.cons (first ++ p)
  next =>
    rw [← String.append_assoc]
    exact hrest.prepend (s ++ text)

theorem between_of_repeated {fill : Frame → Except Fault String} {texts : Frame → List String}
    (hfill : ∀ frame t, fill frame = .ok t → Between opening closing (texts frame) t)
    (items : List ((String × Value) × Value)) (first : Bool)
    (h : repeated fill first items = .ok t) :
    Between opening closing ((frames first items).flatMap texts) t := by
  induction items generalizing first t with
  | nil => trivial
  | cons entry rest ih =>
      rcases entry with ⟨label, item⟩
      rw [repeated] at h
      obtain ⟨u, hu, h⟩ := Except.bind_ok_iff.mp h
      obtain ⟨v, hv, h⟩ := Except.bind_ok_iff.mp h
      cases h
      exact (hfill _ u hu).append (ih false hv)

theorem between_of_part {u : String} {texts : List String}
    (ht : Between opening closing texts ("" ++ t)) (hrest : Between opening closing ss ("" ++ u)) :
    Between opening closing (texts ++ ss) (s ++ (t ++ u)) := by
  rw [String.empty_append] at ht hrest
  exact (ht.append hrest).prepend s

mutual

-- What is filled in before the node ends with `before`, and what is filled in after it begins with
-- `after`.
theorem Node.between_of_fill (table : Table) (opening closing : String) : ∀ (node : Node)
    (before after : String) (scope : Scope) {s t u : String} {ss : List String},
    node.fill table scope = .ok t → (∃ p, s = p ++ before) → (∃ q, u = after ++ q) →
    Between opening closing ss (node.trailing ++ u) →
    Between opening closing
      (textsOf table (node.places opening closing before after) scope ++ ss) (s ++ (t ++ u))
  | .text text, _, _, scope, s, t, u, ss, hfill, _, _, hrest => by
      rw [fill_text] at hfill
      cases hfill
      exact hrest.prepend s
  | .print argument, before, after, scope, s, t, u, ss, hfill, hbefore, hafter, hrest => by
      rw [Node.fill] at hfill
      refine between_of_place hbefore hafter hrest (textsOf_kept ?_)
      rw [Node.texts, hfill]
      rfl
  | .call helper arguments, before, after, scope, s, t, u, ss, hfill, hbefore, hafter, hrest => by
      rw [Node.fill] at hfill
      refine between_of_place hbefore hafter hrest (textsOf_kept ?_)
      rw [Node.texts, hfill]
      rfl
  | .ifTrue condition body, _, _, scope, s, t, u, ss, hfill, _, _, hrest => by
      rw [Node.fill] at hfill
      obtain ⟨given, hgiven, hfill⟩ := Except.bind_ok_iff.mp hfill
      refine between_of_part ?_ hrest
      rw [Node.places, textsOf_around (by simp [Node.texts]), Node.texts, holds_of_eval hgiven]
      split at hfill
      next htrue =>
        rw [if_pos htrue]
        exact between_of_fillFrom table opening closing body "" scope hfill ⟨"", rfl⟩
      next hfalse =>
        rw [if_neg hfalse]
        trivial
  | .ifFalse condition body, _, _, scope, s, t, u, ss, hfill, _, _, hrest => by
      rw [Node.fill] at hfill
      obtain ⟨given, hgiven, hfill⟩ := Except.bind_ok_iff.mp hfill
      refine between_of_part ?_ hrest
      rw [Node.places, textsOf_around (by simp [Node.texts]), Node.texts, holds_of_eval hgiven]
      split at hfill
      next htrue =>
        rw [if_pos htrue]
        trivial
      next hfalse =>
        rw [if_neg hfalse]
        exact between_of_fillFrom table opening closing body "" scope hfill ⟨"", rfl⟩
  | .each items body, _, _, scope, s, t, u, ss, hfill, _, _, hrest => by
      rw [Node.fill] at hfill
      obtain ⟨given, hgiven, hfill⟩ := Except.bind_ok_iff.mp hfill
      obtain ⟨found, hfound, hfill⟩ := Except.bind_ok_iff.mp hfill
      refine between_of_part ?_ hrest
      rw [Node.places, textsOf_around (by simp [Node.texts]), Node.texts,
        framesOf_of_eval hgiven hfound]
      rw [String.empty_append]
      refine between_of_repeated (fun frame t ht => ?_) found true hfill
      have hbody := between_of_fillFrom table opening closing body "" (scope.enter frame) (s := "")
        ht ⟨"", rfl⟩
      rwa [String.empty_append] at hbody
  | .within value body, _, _, scope, s, t, u, ss, hfill, _, _, hrest => by
      rw [Node.fill] at hfill
      obtain ⟨given, hgiven, hfill⟩ := Except.bind_ok_iff.mp hfill
      have hempty : (Node.within value []).texts table scope = [] := by
        rw [Node.texts]
        cases frameOf? table scope value <;> rfl
      refine between_of_part ?_ hrest
      rw [Node.places, textsOf_around hempty, Node.texts]
      split at hfill
      next found hvalue =>
        split at hfill
        next htrue =>
          rw [frameOf?_of_eval hgiven hvalue htrue]
          exact between_of_fillFrom table opening closing body "" (scope.enter { value := found })
            hfill ⟨"", rfl⟩
        next => cases hfill
      next => cases hfill

theorem between_of_fillFrom (table : Table) (opening closing : String) : ∀ (template : Template)
    (before : String) (scope : Scope) {s t : String}, fillAll table template scope = .ok t →
    (∃ p, s = p ++ before) →
    Between opening closing (textsOf table (placesFrom opening closing before template) scope)
      (s ++ t)
  | [], _, _, _, _, _, _ => trivial
  | node :: rest, before, scope, s, t, hfill, hbefore => by
      rw [fillAll_cons] at hfill
      obtain ⟨u, hu, hfill⟩ := Except.bind_ok_iff.mp hfill
      obtain ⟨v, hv, hfill⟩ := Except.bind_ok_iff.mp hfill
      cases hfill
      have hrest := between_of_fillFrom table opening closing rest node.trailing scope
        (s := node.trailing) hv ⟨"", String.empty_append.symm⟩
      rw [placesFrom, textsOf_append]
      exact Node.between_of_fill table opening closing node before (leading rest) scope hu hbefore
        (exists_append_of_fillAll hv) hrest

end

theorem between_of_fillAll (h : fillAll table template scope = .ok t) :
    Between opening closing (textsOf table (placesBetween opening closing template) scope) t := by
  have hall := between_of_fillFrom table opening closing template "" scope (s := "") h ⟨"", rfl⟩
  rwa [String.empty_append] at hall

section Parts

variable {name : String} {value : Value} {part : Template}

theorem texts_print {argument : Argument} (h : print table scope argument = .ok s) :
    (Node.print argument).texts table scope = [s] := by
  rw [Node.texts, h]
  rfl

theorem texts_field (hname : table.helper? name = none)
    (hvalue : scope.inner.value.field? name = some (.text s)) :
    (field name).texts table scope = [s] := by
  have hfill := fill_field hname hvalue
  rw [field, Node.fill] at hfill
  exact texts_print hfill

theorem texts_rootField (hname : table.helper? ("@root." ++ name) = none)
    (hvalue : scope.record.field? name = some (.text s)) :
    (rootField name).texts table scope = [s] := by
  have hpath : (Path.ofRecord name).eval scope = .ok (some (.text s)) := descend_of_field? hvalue
  have hhelper : table.helper? (Path.ofRecord name).text = none := hname
  refine texts_print ?_
  rw [print, hhelper, Argument.eval, hpath]
  rfl

theorem texts_item (hname : table.helper? "this" = none)
    (hvalue : scope.inner.value = .text s) : item.texts table scope = [s] := by
  have hhelper : table.helper? Path.this.text = none := hname
  refine texts_print ?_
  rw [print, hhelper, eval_this, hvalue]
  rfl

theorem texts_when (hvalue : scope.inner.value.field? name = some value) :
    (when name part).texts table scope =
      if isTrue (some value) then textsOf table part scope else [] := by
  rw [when, Node.texts, holds_of_eval (eval_field hvalue)]

theorem flatMap_frames {α : Type} {toValue : α → Value} {xs : List α} {texts : α → List String}
    {of : Frame → List String} (h : ∀ x ∈ xs, ∀ position, of ⟨toValue x, position⟩ = texts x)
    (label : Nat → String × Value) (first : Bool) :
    (frames first ((xs.map toValue).mapIdx fun i item => (label i, item))).flatMap of =
      xs.flatMap texts := by
  induction xs generalizing label first with
  | nil => rfl
  | cons x rest ih =>
      have hrest := ih (fun y hy => h y (List.mem_cons_of_mem _ hy)) (fun i => label (i + 1)) false
      simp only [List.map_cons, List.mapIdx_cons, frames, List.flatMap_cons,
        h x List.mem_cons_self, hrest]

theorem texts_forEach {α : Type} {toValue : α → Value} {xs : List α} {texts : α → List String}
    (hvalue : scope.inner.value.field? name = some (.list (xs.map toValue)))
    (hpart : ∀ x ∈ xs, ∀ position,
      textsOf table part (scope.enter ⟨toValue x, position⟩) = texts x) :
    (forEach name part).texts table scope = xs.flatMap texts := by
  rw [forEach, Node.texts, framesOf_of_eval (eval_field hvalue) rfl]
  exact flatMap_frames hpart (fun i => ("index", .int i)) true

theorem texts_whenEach {α : Type} {toValue : α → Value} {xs : List α} {texts : α → List String}
    (hvalue : scope.inner.value.field? name = some (.list (xs.map toValue)))
    (hpart : ∀ x ∈ xs, ∀ position,
      textsOf table part (scope.enter ⟨toValue x, position⟩) = texts x) :
    (when name [forEach name part]).texts table scope = xs.flatMap texts := by
  rw [texts_when hvalue, textsOf_singleton, texts_forEach hvalue hpart]
  cases xs <;> rfl

end Parts

end StepCommand.Template
