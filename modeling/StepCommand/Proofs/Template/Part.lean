import StepCommand.Proofs.Except
import StepCommand.Proofs.Template.Fit
import StepCommand.Template.Build

namespace StepCommand.Template

variable {table : Table} {scope : Scope} {node : Node} {part rest : Template} {name s t : String}
  {value : Value}

@[simp] theorem fill_text : (Node.text s).fill table scope = .ok s := by rw [Node.fill]

@[simp] theorem fillAll_nil : fillAll table [] scope = .ok "" := rfl

theorem fillAll_cons : fillAll table (node :: rest) scope =
    node.fill table scope >>= fun s => fillAll table rest scope >>= fun t => .ok (s ++ t) := rfl

theorem fillAll_append : fillAll table (part ++ rest) scope =
    fillAll table part scope >>= fun s => fillAll table rest scope >>= fun t => .ok (s ++ t) := by
  induction part with
  | nil =>
      simp only [List.nil_append, fillAll_nil, Except.ok_bind, String.empty_append]
      exact (bind_pure _).symm
  | cons node part ih =>
      simp only [List.cons_append, fillAll_cons, ih, bind_assoc, Except.ok_bind,
        String.append_assoc]

theorem render_append (record : Value) : render table (part ++ rest) record =
    render table part record >>= fun s => render table rest record >>= fun t => .ok (s ++ t) :=
  fillAll_append

theorem fitsAll_append {known : Shape.Scope} :
    fitsAll table (part ++ rest) known =
      (fitsAll table part known && fitsAll table rest known) := by
  induction part with
  | nil => simp [fitsAll]
  | cons node part ih => simp [fitsAll, ih, Bool.and_assoc]

theorem Fits.append_iff {shape : Shape} :
    Fits table (part ++ rest) shape ↔ Fits table part shape ∧ Fits table rest shape := by
  simp [Fits, fitsAll_append]

theorem tabs_zero : tabs 0 = "" := rfl

theorem tabs_one : tabs 1 = "\t" := rfl

theorem tabs_two : tabs 2 = "\t\t" := rfl

theorem tabs_three : tabs 3 = "\t\t\t" := rfl

theorem descend_of_field? {record : Value} (h : record.field? name = some value) :
    descend [name] record = .ok (some value) := by
  cases record with
  | object entries =>
      have hlookup : entries.lookup name = some value := h
      simp [descend, member, hlookup]
  | _ => simp [Value.field?] at h

theorem eval_field (h : scope.inner.value.field? name = some value) :
    (Argument.path (.field name)).eval table scope = .ok ⟨some name, some value⟩ := by
  have hpath : (Path.field name).eval scope = .ok (some value) := descend_of_field? h
  rw [Argument.eval, hpath]
  rfl

theorem eval_this (table : Table) (scope : Scope) :
    (Argument.path .this).eval table scope = .ok ⟨some "this", some scope.inner.value⟩ := by
  have hpath : Path.this.eval scope = .ok (some scope.inner.value) := rfl
  rw [Argument.eval, hpath]
  rfl

theorem fill_field (hname : table.helper? name = none)
    (hvalue : scope.inner.value.field? name = some (.text s)) :
    (field name).fill table scope = .ok s := by
  have hprint : table.helper? (Path.field name).text = none := hname
  rw [field, Node.fill, print, hprint, eval_field hvalue]
  rfl

theorem fill_bool {b : Bool} (hname : table.helper? name = none)
    (hvalue : scope.inner.value.field? name = some (.bool b)) :
    (field name).fill table scope = .ok (toString b) := by
  have hprint : table.helper? (Path.field name).text = none := hname
  rw [field, Node.fill, print, hprint, eval_field hvalue]
  rfl

theorem fill_item (hname : table.helper? "this" = none) (hvalue : scope.inner.value = .text s) :
    item.fill table scope = .ok s := by
  have hprint : table.helper? Path.this.text = none := hname
  rw [item, Node.fill, print, hprint, eval_this, hvalue]
  rfl

theorem callNode_ok {helper : String} {argument : Argument} {f : Helper} {given : Given}
    (hhelper : table.helper? helper = some f) (hargument : argument.eval table scope = .ok given)
    (hresult : f.apply [given] = .ok (.text s)) :
    callNode table scope helper [argument] = .ok s := by
  simp only [callNode, Argument.evalAll, hargument, Template.call, hhelper, hresult, bind,
    Except.bind, pure, Except.pure, printed]

theorem Helper.apply_exported (path : Option String) (s : String) :
    exported.apply [⟨path, some (.text s)⟩] = .ok (.text (Name.exported s)) :=
  rfl

theorem Helper.apply_setter (path : Option String) (type : ParameterType) :
    setter.apply [⟨path, some (.text type.tag)⟩] = .ok (.text type.setter) :=
  setterOf_tag type

theorem fill_apply {helper : String} {f : Helper}
    (hhelper : table.helper? helper = some f)
    (hvalue : scope.inner.value.field? name = some value)
    (hresult : f.apply [⟨some name, some value⟩] = .ok (.text s)) :
    (apply helper name).fill table scope = .ok s := by
  rw [apply, Node.fill]
  exact callNode_ok hhelper (eval_field hvalue) hresult

theorem fill_applyItem {helper : String} {f : Helper} (hhelper : table.helper? helper = some f)
    (hresult : f.apply [⟨some "this", some scope.inner.value⟩] = .ok (.text s)) :
    (applyItem helper).fill table scope = .ok s := by
  rw [applyItem, Node.fill]
  exact callNode_ok hhelper (eval_this table scope) hresult

theorem fill_when_isTrue (hvalue : scope.inner.value.field? name = some value) :
    (when name part).fill table scope =
      if isTrue (some value) then fillAll table part scope else .ok "" := by
  rw [when, Node.fill, eval_field hvalue]
  rfl

theorem fill_when {b : Bool} (hvalue : scope.inner.value.field? name = some (.bool b)) :
    (when name part).fill table scope = if b then fillAll table part scope else .ok "" := by
  rw [when, Node.fill, eval_field hvalue]
  rfl

section Repetition

variable {α : Type} {toValue : α → Value} {text : α → String} {xs : List α}

theorem repeated_mapIdx {fill : Frame → Except Fault String}
    (hfill : ∀ x ∈ xs, ∀ position, fill ⟨toValue x, position⟩ = .ok (text x))
    (label : Nat → String × Value) (first : Bool) :
    repeated fill first ((xs.map toValue).mapIdx fun i item => (label i, item)) =
      .ok (String.join (xs.map text)) := by
  induction xs generalizing label first with
  | nil => rfl
  | cons x rest ih =>
      have hfirst := hfill x List.mem_cons_self
      have hrest := ih (fun y hy => hfill y (List.mem_cons_of_mem _ hy)) (fun i => label (i + 1))
      simp only [List.map_cons, List.mapIdx_cons, repeated, hfirst, hrest, bind, Except.bind, pure,
        Except.pure, String.join_cons]

-- A part that does not ask where it stands is filled for each item alike.
theorem fill_forEach
    (hvalue : scope.inner.value.field? name = some (.list (xs.map toValue)))
    (hpart : ∀ x ∈ xs, ∀ position,
      fillAll table part (scope.enter ⟨toValue x, position⟩) = .ok (text x)) :
    (forEach name part).fill table scope = .ok (String.join (xs.map text)) := by
  rw [forEach, Node.fill, eval_field hvalue]
  have hfill : ∀ x ∈ xs, ∀ position, (fun frame => fillAll table part (scope.enter frame))
      ⟨toValue x, position⟩ = .ok (text x) := hpart
  exact repeated_mapIdx hfill (fun i => ("index", .int i)) true

end Repetition

end StepCommand.Template
