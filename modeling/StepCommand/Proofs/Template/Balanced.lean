import StepCommand.Proofs.Template.Balanced.Value

namespace StepCommand.Template

open Text (Bracket delimiters encodedDelimiters)

mutual

def Argument.isBalanced : Argument → Bool
  | .path _ => true
  | .literal value => decide value.IsBalanced
  | .call _ arguments => Argument.areBalanced arguments

def Argument.areBalanced : List Argument → Bool
  | [] => true
  | argument :: rest => argument.isBalanced && areBalanced rest

end

mutual

-- The brackets that are open after a part, if those of `outer` were open before it.
def Node.brackets? : Node → List Bracket → Option (List Bracket)
  | .text s, outer => Text.scan outer (encodedDelimiters s)
  | .print argument, outer => if argument.isBalanced then some outer else none
  | .call _ arguments, outer => if Argument.areBalanced arguments then some outer else none
  | .ifTrue _ body, outer => if bracketsOf? body outer = some outer then some outer else none
  | .ifFalse _ body, outer => if bracketsOf? body outer = some outer then some outer else none
  | .each items body, outer =>
      if items.isBalanced ∧ bracketsOf? body outer = some outer then some outer else none
  | .within value body, outer =>
      if value.isBalanced ∧ bracketsOf? body outer = some outer then some outer else none

def bracketsOf? : List Node → List Bracket → Option (List Bracket)
  | [], outer => some outer
  | node :: rest, outer => (node.brackets? outer).bind (bracketsOf? rest)

end

def IsBalanced (template : Template) : Prop := bracketsOf? template [] = some []

instance (template : Template) : Decidable template.IsBalanced :=
  inferInstanceAs (Decidable (_ = _))

def Frame.IsBalanced (frame : Frame) : Prop :=
  frame.value.IsBalanced ∧ ∀ entry ∈ frame.position, entry.2.IsBalanced

structure Scope.IsBalanced (scope : Scope) : Prop where
  record : scope.record.IsBalanced
  frames : ∀ frame ∈ scope.inner :: scope.outer, frame.IsBalanced

variable {table : Table} {scope : Scope} {v : Value} {name s : String}

theorem Scope.isBalanced_ofRecord (h : v.IsBalanced) : (Scope.ofRecord v).IsBalanced where
  record := h
  frames := by
    intro frame hf
    obtain rfl := List.mem_singleton.mp hf
    exact ⟨h, fun _ he => absurd he List.not_mem_nil⟩

theorem Scope.IsBalanced.enter {frame : Frame} (hs : scope.IsBalanced) (hf : frame.IsBalanced) :
    (scope.enter frame).IsBalanced where
  record := hs.record
  frames := List.forall_mem_cons.mpr ⟨hf, hs.frames⟩

theorem Path.isBalanced_eval {p : Path} (hs : scope.IsBalanced) (h : p.eval scope = .ok (some v)) :
    v.IsBalanced := by
  rcases p with ⟨text, target⟩
  cases target with
  | value outward names =>
      refine isBalanced_descend ?_ h
      rw [Scope.value, Scope.frame?]
      cases hf : (scope.inner :: scope.outer)[outward]? with
      | none => exact (hs.frames scope.inner List.mem_cons_self).1
      | some frame => exact (hs.frames frame (List.mem_of_getElem? hf)).1
  | record names => exact isBalanced_descend hs.record h
  | position outward name =>
      have hposition : scope.position? outward name = some v := Except.ok.inj h
      obtain ⟨frame, hf, hlookup⟩ := Option.bind_eq_some_iff.mp hposition
      exact (hs.frames frame (List.mem_of_getElem? hf)).2 _ (mem_of_lookup hlookup)

mutual

theorem Argument.isBalanced_eval (hs : scope.IsBalanced) : ∀ {argument : Argument} {g : Given},
    argument.isBalanced = true → argument.eval table scope = .ok g → g.IsBalanced
  | .path p, _, _, h => by
      rw [Argument.eval] at h
      obtain ⟨value, hvalue, h⟩ := Except.bind_ok_iff.mp h
      cases h
      rintro v rfl
      exact Path.isBalanced_eval hs hvalue
  | .literal value, _, hliteral, h => by
      rw [Argument.eval] at h
      cases h
      rw [Argument.isBalanced] at hliteral
      rintro v ⟨⟩
      exact of_decide_eq_true hliteral
  | .call helper arguments, _, harguments, h => by
      rw [Argument.eval] at h
      obtain ⟨given, hgiven, h⟩ := Except.bind_ok_iff.mp h
      obtain ⟨value, hvalue, h⟩ := Except.bind_ok_iff.mp h
      cases h
      rw [Argument.isBalanced] at harguments
      rintro v ⟨⟩
      exact isBalanced_call (Argument.isBalanced_evalAll hs harguments hgiven) hvalue

theorem Argument.isBalanced_evalAll (hs : scope.IsBalanced) : ∀ {arguments : List Argument}
    {given : List Given}, Argument.areBalanced arguments = true →
    Argument.evalAll table scope arguments = .ok given → ∀ g ∈ given, g.IsBalanced
  | [], _, _, h => by
      rw [Argument.evalAll] at h
      cases h
      exact fun g hg => absurd hg List.not_mem_nil
  | argument :: rest, _, hall, h => by
      rw [Argument.evalAll] at h
      obtain ⟨first, hfirst, h⟩ := Except.bind_ok_iff.mp h
      obtain ⟨others, hothers, h⟩ := Except.bind_ok_iff.mp h
      cases h
      rw [Argument.areBalanced, Bool.and_eq_true] at hall
      exact List.forall_mem_cons.mpr ⟨Argument.isBalanced_eval hs hall.1 hfirst,
        Argument.isBalanced_evalAll hs hall.2 hothers⟩

end

theorem isBalanced_printGiven {g : Given} (hg : g.IsBalanced) (h : printGiven g = .ok s) :
    Text.IsBalanced s := by
  unfold printGiven at h
  split at h
  next value hvalue =>
    cases h
    exact isBalanced_printed (hg value hvalue)
  next => cases h

theorem isBalanced_callAlone (h : (call table name []).map printed = .ok s) :
    Text.IsBalanced s := by
  cases hcall : call table name [] with
  | error fault => simp [hcall, Except.map] at h
  | ok value =>
      rw [hcall] at h
      cases h
      exact isBalanced_printed (isBalanced_call (fun g hg => absurd hg List.not_mem_nil) hcall)

theorem isBalanced_print {argument : Argument} (hs : scope.IsBalanced)
    (ha : argument.isBalanced = true) (h : print table scope argument = .ok s) :
    Text.IsBalanced s := by
  cases argument with
  | path p =>
      rw [print] at h
      split at h
      next => exact isBalanced_callAlone h
      next =>
        obtain ⟨g, hg, h⟩ := Except.bind_ok_iff.mp h
        exact isBalanced_printGiven (Argument.isBalanced_eval hs ha hg) h
  | literal value =>
      cases h
      have heval : (Argument.literal value).eval table scope = .ok ⟨none, some value⟩ := by
        rw [Argument.eval]
      exact isBalanced_printed (Argument.isBalanced_eval hs ha heval value rfl)
  | call helper arguments =>
      obtain ⟨g, hg, h⟩ := Except.bind_ok_iff.mp h
      obtain ⟨text, htext, h⟩ := Except.bind_ok_iff.mp h
      split at h
      next => exact isBalanced_callAlone h
      next =>
        cases h
        exact isBalanced_printGiven (Argument.isBalanced_eval hs ha hg) htext

theorem isBalanced_callNode {helper : String} {arguments : List Argument} (hs : scope.IsBalanced)
    (ha : Argument.areBalanced arguments = true)
    (h : callNode table scope helper arguments = .ok s) : Text.IsBalanced s := by
  obtain ⟨given, hgiven, h⟩ := Except.bind_ok_iff.mp h
  obtain ⟨value, hvalue, h⟩ := Except.bind_ok_iff.mp h
  cases h
  exact isBalanced_printed (isBalanced_call (Argument.isBalanced_evalAll hs ha hgiven) hvalue)

theorem isBalanced_itemsOf {g : Given} {items : List ((String × Value) × Value)}
    (hg : g.IsBalanced) (h : itemsOf g = .ok items) :
    ∀ item ∈ items, item.1.2.IsBalanced ∧ item.2.IsBalanced := by
  unfold itemsOf at h
  split at h
  next values hvalue =>
    cases h
    intro item hi
    obtain ⟨i, hlt, rfl⟩ := List.mem_mapIdx.mp hi
    have hvalues := (Value.isBalanced_list values).mp (hg _ hvalue)
    exact ⟨Value.isBalanced_int _, hvalues _ (List.getElem_mem hlt)⟩
  next entries hvalue =>
    cases h
    intro item hi
    obtain ⟨entry, he, rfl⟩ := List.mem_map.mp hi
    obtain ⟨hkey, hentry⟩ := (Value.isBalanced_object entries).mp (hg _ hvalue) entry he
    exact ⟨(Value.isBalanced_text _).mpr hkey, hentry⟩
  next => cases h

variable {outer inner : List Bracket}

theorem scan_delimiters_append {t : String}
    (hs : Text.scan outer (delimiters s.toList) = some inner) :
    Text.scan outer (delimiters (s ++ t).toList) = Text.scan inner (delimiters t.toList) := by
  rw [String.toList_append, Text.delimiters_append, Text.scan_append, hs, Option.bind_some]

-- Each repetition leaves the brackets open that were open before it.
theorem scan_repeated {fill : Frame → Except Fault String}
    (hfill : ∀ frame s, frame.IsBalanced → fill frame = .ok s →
      Text.scan outer (delimiters s.toList) = some outer)
    {items : List ((String × Value) × Value)} {first : Bool}
    (hitems : ∀ item ∈ items, item.1.2.IsBalanced ∧ item.2.IsBalanced)
    (h : repeated fill first items = .ok s) :
    Text.scan outer (delimiters s.toList) = some outer := by
  induction items generalizing first s with
  | nil =>
      cases h
      exact Text.isBalanced_empty.scan outer
  | cons item rest ih =>
      rcases item with ⟨label, value⟩
      obtain ⟨⟨hlabel, hvalue⟩, hrest⟩ := List.forall_mem_cons.mp hitems
      obtain ⟨text, htext, h⟩ := Except.bind_ok_iff.mp h
      obtain ⟨more, hmore, h⟩ := Except.bind_ok_iff.mp h
      cases h
      have hframe : Frame.IsBalanced
          ⟨value, [("first", .bool first), ("last", .bool rest.isEmpty), label]⟩ :=
        ⟨hvalue, by simpa using hlabel⟩
      rw [scan_delimiters_append (hfill _ _ hframe htext), ih hrest hmore]

mutual

theorem Node.scan_fill : ∀ {node : Node} {scope : Scope} {outer inner : List Bracket} {s : String},
    scope.IsBalanced → node.brackets? outer = some inner → node.fill table scope = .ok s →
    Text.scan outer (delimiters s.toList) = some inner
  | .text t, _, _, _, _, _, hb, h => by
      rw [Node.fill] at h
      cases h
      rwa [Node.brackets?, Text.encodedDelimiters_eq] at hb
  | .print argument, _, _, _, _, hs, hb, h => by
      rw [Node.fill] at h
      rw [Node.brackets?] at hb
      split at hb
      next ha =>
        cases hb
        exact (isBalanced_print hs ha h).scan _
      next => cases hb
  | .call helper arguments, _, _, _, _, hs, hb, h => by
      rw [Node.fill] at h
      rw [Node.brackets?] at hb
      split at hb
      next ha =>
        cases hb
        exact (isBalanced_callNode hs ha h).scan _
      next => cases hb
  | .ifTrue condition body, _, _, _, _, hs, hb, h => by
      rw [Node.fill] at h
      obtain ⟨g, _, h⟩ := Except.bind_ok_iff.mp h
      rw [Node.brackets?] at hb
      split at hb
      next hbody =>
        cases hb
        split at h
        next => exact scan_fillAll hs hbody h
        next =>
          cases h
          exact Text.isBalanced_empty.scan _
      next => cases hb
  | .ifFalse condition body, _, _, _, _, hs, hb, h => by
      rw [Node.fill] at h
      obtain ⟨g, _, h⟩ := Except.bind_ok_iff.mp h
      rw [Node.brackets?] at hb
      split at hb
      next hbody =>
        cases hb
        split at h
        next =>
          cases h
          exact Text.isBalanced_empty.scan _
        next => exact scan_fillAll hs hbody h
      next => cases hb
  | .each argument body, _, _, _, _, hs, hb, h => by
      rw [Node.fill] at h
      obtain ⟨g, hg, h⟩ := Except.bind_ok_iff.mp h
      obtain ⟨items, hitems, h⟩ := Except.bind_ok_iff.mp h
      rw [Node.brackets?] at hb
      split at hb
      next hbody =>
        cases hb
        have hbalanced := isBalanced_itemsOf (Argument.isBalanced_eval hs hbody.1 hg) hitems
        exact scan_repeated (fun frame s hf hfill => scan_fillAll (hs.enter hf) hbody.2 hfill)
          hbalanced h
      next => cases hb
  | .within argument body, _, _, _, _, hs, hb, h => by
      rw [Node.fill] at h
      obtain ⟨g, hg, h⟩ := Except.bind_ok_iff.mp h
      rw [Node.brackets?] at hb
      split at hb
      next hbody =>
        cases hb
        split at h
        next value hvalue =>
          split at h
          next =>
            have hframe : Frame.IsBalanced { value } :=
              ⟨Argument.isBalanced_eval hs hbody.1 hg value hvalue,
                fun _ he => absurd he List.not_mem_nil⟩
            exact scan_fillAll (hs.enter hframe) hbody.2 h
          next => cases h
        next => cases h
      next => cases hb

theorem scan_fillAll : ∀ {template : List Node} {scope : Scope} {outer inner : List Bracket}
    {s : String}, scope.IsBalanced → bracketsOf? template outer = some inner →
    fillAll table template scope = .ok s → Text.scan outer (delimiters s.toList) = some inner
  | [], _, _, _, _, _, hb, h => by
      rw [fillAll] at h
      rw [bracketsOf?] at hb
      cases h
      rw [← hb]
      exact Text.isBalanced_empty.scan _
  | node :: rest, _, _, _, _, hs, hb, h => by
      rw [fillAll] at h
      obtain ⟨first, hfirst, h⟩ := Except.bind_ok_iff.mp h
      obtain ⟨others, hothers, h⟩ := Except.bind_ok_iff.mp h
      cases h
      rw [bracketsOf?] at hb
      obtain ⟨between, hnode, hrest⟩ := Option.bind_eq_some_iff.mp hb
      rw [scan_delimiters_append (Node.scan_fill hs hnode hfirst)]
      exact scan_fillAll hs hrest hothers

end

theorem bracketsOf?_append {before after : Template} :
    bracketsOf? (before ++ after) outer = (bracketsOf? before outer).bind (bracketsOf? after) := by
  induction before generalizing outer with
  | nil => rfl
  | cons node rest ih =>
      rw [List.cons_append, bracketsOf?, bracketsOf?, Option.bind_assoc]
      exact Option.bind_congr fun _ _ => ih

theorem IsBalanced.append {before after : Template} (hbefore : before.IsBalanced)
    (hafter : after.IsBalanced) : IsBalanced (before ++ after) := by
  rw [IsBalanced, bracketsOf?_append, hbefore]
  exact hafter

-- The brackets are those of the template itself if all that it is filled with is balanced.
theorem isBalanced_render {template : Template} {record : Value} (ht : template.IsBalanced)
    (hr : record.IsBalanced) (h : render table template record = .ok s) : Text.IsBalanced s :=
  Text.nested_iff.mpr (scan_fillAll (Scope.isBalanced_ofRecord hr) ht h)

end StepCommand.Template
