import StepCommand.Proofs.Template.Shape

namespace StepCommand.Template

-- Parts that depend on more than shapes, such as scopes that have to hold something, do not pass.
def Path.shape? (known : Shape.Scope) (p : Path) : Option Shape :=
  match p.target with
  | .value outward names => (known.frame? outward).bind fun frame => frame.value.descend names
  | .record names => known.record.descend names
  | .position outward name =>
      (known.frame? outward).bind fun frame =>
        if frame.repeated ∧ name ∈ ["first", "last"] then some .any else none

def Argument.shape? (known : Shape.Scope) : Argument → Option Shape
  | .path p => p.shape? known
  | .literal _ => some .any
  | .call _ _ => none

-- What a function is sure to take as its argument.
def Helper.takes : Helper → Shape → Bool
  | exported, shape => shape.isText
  | rawText, shape => shape.isText
  | title, shape => shape.isText
  | setter, .tag => true
  | unique, .list _ => true
  | _, _ => false

mutual

def Node.fits (table : Table) : Node → Shape.Scope → Bool
  | .text _, _ => true
  | .print (.path p), known => (table.helper? p.text).isNone && (p.shape? known).isSome
  | .call helper [argument], known =>
      (table.helper? helper).any fun f => (argument.shape? known).any f.takes
  | .ifTrue condition body, known => (condition.shape? known).isSome && fitsAll table body known
  | .ifFalse condition body, known => (condition.shape? known).isSome && fitsAll table body known
  | .each items body, known =>
      match items.shape? known with
      | some (.list item) => fitsAll table body (known.enter ⟨item, true⟩)
      | _ => false
  | _, _ => false

def fitsAll (table : Table) : List Node → Shape.Scope → Bool
  | [], _ => true
  | node :: rest, known => node.fits table known && fitsAll table rest known

end

theorem Path.eval_of_shape? {known : Shape.Scope} {scope : Scope} {p : Path} {shape : Shape}
    (hs : known.Admits scope) (hp : p.shape? known = some shape) :
    ∃ value, p.eval scope = .ok (some value) ∧ shape.Admits value := by
  rcases p with ⟨text, target⟩
  cases target with
  | value outward names =>
      obtain ⟨frame, hf, hd⟩ := Option.bind_eq_some_iff.mp hp
      obtain ⟨found, hfound, hadmits⟩ := Shape.Scope.frame?_admits hs hf
      obtain ⟨last, hl, hlast⟩ := Shape.descend_admits hadmits.1 hd
      exact ⟨last, by simpa only [Path.eval, Scope.value, hfound, Option.getD_some] using hl, hlast⟩
  | record names => exact Shape.descend_admits hs.1 hp
  | position outward name =>
      obtain ⟨frame, hf, hif⟩ := Option.bind_eq_some_iff.mp hp
      split at hif
      next hr =>
        cases hif
        obtain ⟨found, hfound, hadmits⟩ := Shape.Scope.frame?_admits hs hf
        obtain ⟨value, hv⟩ := Option.isSome_iff_exists.mp (hadmits.2 hr.1 name hr.2)
        refine ⟨value, ?_, trivial⟩
        simp only [Path.eval, Scope.position?, hfound, Option.bind_some, hv]
      next => cases hif

theorem Argument.eval_of_shape? {known : Shape.Scope} {scope : Scope} {argument : Argument}
    {shape : Shape} (table : Table) (hs : known.Admits scope)
    (ha : argument.shape? known = some shape) :
    ∃ given value, argument.eval table scope = .ok given ∧ given.value = some value ∧
      shape.Admits value := by
  cases argument with
  | path p =>
      obtain ⟨value, hv, hadmits⟩ := Path.eval_of_shape? hs ha
      exact ⟨⟨some p.text, some value⟩, value, by rw [Argument.eval, hv]; rfl, rfl, hadmits⟩
  | literal value =>
      cases ha
      exact ⟨⟨none, some value⟩, value, by rw [Argument.eval], rfl, trivial⟩
  | call helper arguments => cases ha

theorem Helper.onText_of_text {shape : Shape} {value : Value} (helper argument : String)
    (f : String → String) (ht : shape.isText = true) (hv : shape.Admits value) :
    ∃ result, onText helper argument f (some value) = .ok result := by
  obtain ⟨s, rfl⟩ := Shape.exists_text_of_isText ht hv
  exact ⟨_, rfl⟩

theorem Helper.setterOf_tag (kind : ParameterType) :
    setterOf (some (.text kind.tag)) = .ok (.text kind.setter) := by
  cases kind <;> rfl

theorem Helper.apply_of_takes {helper : Helper} {shape : Shape} {given : Given} {value : Value}
    (ht : helper.takes shape = true) (hg : given.value = some value) (hv : shape.Admits value) :
    ∃ result, helper.apply [given] = .ok result := by
  simp only [Helper.apply, List.head?_cons, Option.bind_some, hg]
  cases helper with
  | exported => exact onText_of_text _ _ _ ht hv
  | rawText => exact onText_of_text _ _ _ ht hv
  | title => exact onText_of_text _ _ _ ht hv
  | setter =>
      cases shape with
      | tag =>
          obtain ⟨kind, rfl⟩ := hv
          exact ⟨_, setterOf_tag kind⟩
      | _ => simp [Helper.takes] at ht
  | unique =>
      cases shape with
      | list item =>
          obtain ⟨items, rfl, _⟩ := hv
          exact ⟨_, rfl⟩
      | _ => simp [Helper.takes] at ht
  | _ => simp [Helper.takes] at ht

theorem repeated_of_forall {fill : Frame → Except Fault String} {P : Value → Prop}
    (hfill : ∀ frame : Frame, P frame.value →
      (∀ name ∈ ["first", "last"], (frame.position.lookup name).isSome) →
      ∃ s, fill frame = .ok s)
    (items : List ((String × Value) × Value)) (hitems : ∀ entry ∈ items, P entry.2) (first : Bool) :
    ∃ s, repeated fill first items = .ok s := by
  induction items generalizing first with
  | nil => exact ⟨_, rfl⟩
  | cons entry rest ih =>
      rcases entry with ⟨label, item⟩
      obtain ⟨s, hs⟩ := hfill
        ⟨item, [("first", .bool first), ("last", .bool rest.isEmpty), label]⟩
        (hitems (label, item) List.mem_cons_self) (by simp [List.lookup_cons])
      obtain ⟨t, ht⟩ := ih (fun entry he => hitems entry (List.mem_cons_of_mem _ he)) false
      exact ⟨s ++ t, by rw [repeated, hs]; simp only [bind, Except.bind, ht]; rfl⟩

theorem mem_of_mem_itemsOf {given : Given} {items : List Value}
    (hg : given.value = some (.list items)) :
    ∃ found, itemsOf given = .ok found ∧ ∀ entry ∈ found, entry.2 ∈ items := by
  refine ⟨_, by simp only [itemsOf, hg]; rfl, ?_⟩
  intro entry he
  obtain ⟨i, hi, rfl⟩ := List.mem_mapIdx.mp he
  exact List.getElem_mem hi

mutual

-- A condition decides which of its parts is filled; both are checked.
theorem Node.fill_of_fits (table : Table) : ∀ (node : Node) (known : Shape.Scope) (scope : Scope),
    known.Admits scope → node.fits table known = true → ∃ s, node.fill table scope = .ok s
  | .text s, _, _, _, _ => ⟨s, by rw [Node.fill]⟩
  | .print (.path p), known, scope, hs, hf => by
      simp only [Node.fits, Bool.and_eq_true, Option.isNone_iff_eq_none] at hf
      obtain ⟨shape, hp⟩ := Option.isSome_iff_exists.mp hf.2
      obtain ⟨value, hv, _⟩ := Path.eval_of_shape? hs hp
      refine ⟨printed value, ?_⟩
      rw [Node.fill, print, hf.1, Argument.eval, hv]
      rfl
  | .call helper [argument], known, scope, hs, hf => by
      simp only [Node.fits, Option.any_eq_true] at hf
      obtain ⟨f, hhelper, shape, ha, ht⟩ := hf
      obtain ⟨given, value, heval, hg, hadmits⟩ := Argument.eval_of_shape? table hs ha
      obtain ⟨result, hresult⟩ := Helper.apply_of_takes ht hg hadmits
      refine ⟨printed result, ?_⟩
      simp only [Node.fill, callNode, Argument.evalAll, heval, Template.call, hhelper, bind,
        Except.bind, pure, Except.pure, hresult]
  | .ifTrue condition body, known, scope, hs, hf => by
      simp only [Node.fits, Bool.and_eq_true] at hf
      obtain ⟨shape, hc⟩ := Option.isSome_iff_exists.mp hf.1
      obtain ⟨given, value, heval, _, _⟩ := Argument.eval_of_shape? table hs hc
      obtain ⟨s, hbody⟩ := fillAll_of_fits table body known scope hs hf.2
      simp only [Node.fill, heval, bind, Except.bind, hbody]
      split
      · exact ⟨_, rfl⟩
      · exact ⟨_, rfl⟩
  | .ifFalse condition body, known, scope, hs, hf => by
      simp only [Node.fits, Bool.and_eq_true] at hf
      obtain ⟨shape, hc⟩ := Option.isSome_iff_exists.mp hf.1
      obtain ⟨given, value, heval, _, _⟩ := Argument.eval_of_shape? table hs hc
      obtain ⟨s, hbody⟩ := fillAll_of_fits table body known scope hs hf.2
      simp only [Node.fill, heval, bind, Except.bind, hbody]
      split
      · exact ⟨_, rfl⟩
      · exact ⟨_, rfl⟩
  | .each items body, known, scope, hs, hf => by
      simp only [Node.fits] at hf
      split at hf
      next item hi =>
        obtain ⟨given, value, heval, hg, values, rfl, hitems⟩ :=
          Argument.eval_of_shape? table hs hi
        obtain ⟨found, hfound, hmem⟩ := mem_of_mem_itemsOf hg
        simp only [Node.fill, heval, bind, Except.bind, hfound]
        refine repeated_of_forall (P := item.Admits) ?_ found
          (fun entry he => hitems _ (hmem entry he)) true
        intro frame hvalue hposition
        exact fillAll_of_fits table body _ _ (hs.enter ⟨hvalue, fun _ => hposition⟩) hf
      next => simp at hf
  | .print (.literal _), _, _, _, hf => by simp [Node.fits] at hf
  | .print (.call _ _), _, _, _, hf => by simp [Node.fits] at hf
  | .call _ [], _, _, _, hf => by simp [Node.fits] at hf
  | .call _ (_ :: _ :: _), _, _, _, hf => by simp [Node.fits] at hf
  | .within _ _, _, _, _, hf => by simp [Node.fits] at hf

theorem fillAll_of_fits (table : Table) : ∀ (nodes : List Node) (known : Shape.Scope)
    (scope : Scope), known.Admits scope → fitsAll table nodes known = true →
    ∃ s, fillAll table nodes scope = .ok s
  | [], _, _, _, _ => ⟨"", by rw [fillAll]⟩
  | node :: rest, known, scope, hs, hf => by
      simp only [fitsAll, Bool.and_eq_true] at hf
      obtain ⟨s, hnode⟩ := Node.fill_of_fits table node known scope hs hf.1
      obtain ⟨t, hrest⟩ := fillAll_of_fits table rest known scope hs hf.2
      exact ⟨s ++ t, by simp only [fillAll, hnode, hrest, bind, Except.bind, pure, Except.pure]⟩

end

def Fits (table : Table) (template : Template) (shape : Shape) : Prop :=
  fitsAll table template (Shape.Scope.ofRecord shape) = true

instance (table : Table) (template : Template) (shape : Shape) :
    Decidable (Fits table template shape) :=
  inferInstanceAs (Decidable (_ = true))

-- The check reads the template alone.
theorem render_of_fits {table : Table} {template : Template} {shape : Shape} {record : Value}
    (hf : Fits table template shape) (hr : shape.Admits record) :
    ∃ s, render table template record = .ok s :=
  fillAll_of_fits table template _ _ (Shape.Scope.admits_ofRecord hr) hf

end StepCommand.Template
