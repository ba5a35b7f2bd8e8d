import StepCommand.Proofs.Except
import StepCommand.Proofs.Name.Balanced
import StepCommand.Proofs.Unique
import StepCommand.Template.Render

namespace StepCommand.Template

def Given.IsBalanced (given : Given) : Prop := ∀ v, given.value = some v → v.IsBalanced

variable {table : Table} {v w : Value} {name s : String} {given : List Given}

theorem isBalanced_member (hv : v.IsBalanced) (h : member name v = .ok (some w)) :
    w.IsBalanced := by
  cases v with
  | object entries =>
      have hmem := mem_of_lookup (Except.ok.inj h)
      exact ((Value.isBalanced_object entries).mp hv _ hmem).2
  | list items =>
      simp only [member] at h
      split at h
      next i _ =>
        have hmem := List.mem_of_getElem? (Except.ok.inj h)
        exact (Value.isBalanced_list items).mp hv w hmem
      next => cases h
  | _ => cases h

theorem isBalanced_descend {names : List String} (hv : v.IsBalanced)
    (h : descend names v = .ok (some w)) : w.IsBalanced := by
  induction names generalizing v with
  | nil =>
      cases h
      exact hv
  | cons name rest ih =>
      simp only [descend] at h
      split at h
      next inner hinner => exact ih (isBalanced_member hv hinner) h
      next hnone => exact absurd h (by simpa using hnone w)

namespace Helper

theorem isBalanced_onText {helper argument : String} {f : String → String} {first : Option Value}
    (hf : ∀ {s}, Text.IsBalanced s → Text.IsBalanced (f s))
    (hv : ∀ w, first = some w → w.IsBalanced) (h : onText helper argument f first = .ok v) :
    v.IsBalanced := by
  unfold onText at h
  split at h
  next => cases h
  next s =>
    cases h
    exact (Value.isBalanced_text _).mpr (hf ((Value.isBalanced_text s).mp (hv _ rfl)))
  next => cases h

theorem isBalanced_setterOf {first : Option Value} (h : setterOf first = .ok v) : v.IsBalanced := by
  have hsetters : ∀ kind : ParameterType, Text.IsBalanced kind.setter := by
    intro kind
    cases kind <;> decide
  unfold setterOf at h
  dsimp only at h
  split at h
  next kind _ =>
    cases h
    exact (Value.isBalanced_text _).mpr (hsetters kind)
  next => cases h

theorem isBalanced_uniqueItems {first : Option Value}
    (hv : ∀ w, first = some w → w.IsBalanced) (h : uniqueItems first = .ok v) : v.IsBalanced := by
  unfold uniqueItems at h
  split at h
  next => cases h
  next items =>
    cases h
    have hitems := (Value.isBalanced_list items).mp (hv _ rfl)
    refine (Value.isBalanced_list _).mpr fun item hi => hitems item ?_
    exact List.mem_of_find?_eq_some (mem_uniqueBy_iff.mp hi)
  next => cases h

theorem isBalanced_valueAt {helper : String} {index : Nat} (hg : ∀ g ∈ given, g.IsBalanced)
    (h : valueAt helper given index = .ok v) : v.IsBalanced := by
  unfold valueAt at h
  split at h
  next g hget =>
    cases h
    cases hvalue : g.value with
    | none => simp
    | some w => exact hg g (List.mem_of_getElem? hget) w hvalue
  next => cases h

theorem isBalanced_memberOf {collection key : Value} (hc : collection.IsBalanced)
    (h : memberOf collection key = some v) : v.IsBalanced := by
  unfold memberOf at h
  split at h
  next items n =>
    split at h
    next => exact (Value.isBalanced_list items).mp hc v (List.mem_of_getElem? h)
    next => cases h
  next entries name => exact ((Value.isBalanced_object entries).mp hc _ (mem_of_lookup h)).2
  next => cases h

theorem isBalanced_memberAt (hg : ∀ g ∈ given, g.IsBalanced) (h : memberAt given = .ok v) :
    v.IsBalanced := by
  obtain ⟨collection, hcollection, h⟩ := Except.bind_ok_iff.mp h
  obtain ⟨key, _, h⟩ := Except.bind_ok_iff.mp h
  split at h
  next w hw =>
    cases h
    exact isBalanced_memberOf (isBalanced_valueAt hg hcollection) hw
  next => cases h

theorem isBalanced_enter (h : enter given = .ok v) : v.IsBalanced := by
  unfold enter at h
  split at h
  next => cases h
  next =>
    split at h
    next =>
      cases h
      exact (Value.isBalanced_text _).mpr Text.isBalanced_empty
    next => cases h

theorem isBalanced_comparedBy {c : Comparison} (h : comparedBy c given = .ok v) :
    v.IsBalanced := by
  unfold comparedBy at h
  split at h
  next => cases h
  next => cases h
  next =>
    cases h
    exact Value.isBalanced_bool _

theorem isBalanced_sizeOf {first : Option Value} (h : sizeOf first = .ok v) : v.IsBalanced := by
  unfold sizeOf at h
  split at h
  next => cases h
  all_goals
    cases h
    exact Value.isBalanced_int _

theorem isBalanced_apply {helper : Helper} (hg : ∀ g ∈ given, g.IsBalanced)
    (h : helper.apply given = .ok v) : v.IsBalanced := by
  have hfirst : ∀ w, given.head?.bind Given.value = some w → w.IsBalanced := by
    intro w hw
    obtain ⟨g, hhead, hvalue⟩ := Option.bind_eq_some_iff.mp hw
    exact hg g (List.mem_of_head? hhead) w hvalue
  have hempty : (Value.text "").IsBalanced := (Value.isBalanced_text _).mpr Text.isBalanced_empty
  cases helper with
  | exported => exact isBalanced_onText Name.isBalanced_exported hfirst h
  | setter => exact isBalanced_setterOf h
  | rawText => exact isBalanced_onText Name.isBalanced_rawText hfirst h
  | title => exact isBalanced_onText Name.isBalanced_title hfirst h
  | unique => exact isBalanced_uniqueItems hfirst h
  | condition =>
      obtain ⟨_, _, h⟩ := Except.bind_ok_iff.mp h
      cases h
      exact hempty
  | repetition =>
      obtain ⟨_, _, h⟩ := Except.bind_ok_iff.mp h
      cases h
      exact hempty
  | scope => exact isBalanced_enter h
  | nothing =>
      cases h
      exact hempty
  | member => exact isBalanced_memberAt hg h
  | comparison c => exact isBalanced_comparedBy h
  | all =>
      obtain ⟨_, _, h⟩ := Except.bind_ok_iff.mp h
      obtain ⟨_, _, h⟩ := Except.bind_ok_iff.mp h
      cases h
      exact Value.isBalanced_bool _
  | any =>
      obtain ⟨_, _, h⟩ := Except.bind_ok_iff.mp h
      obtain ⟨_, _, h⟩ := Except.bind_ok_iff.mp h
      cases h
      exact Value.isBalanced_bool _
  | negation =>
      obtain ⟨_, _, h⟩ := Except.bind_ok_iff.mp h
      cases h
      exact Value.isBalanced_bool _
  | size => exact isBalanced_sizeOf h

end Helper

theorem isBalanced_call (hg : ∀ g ∈ given, g.IsBalanced) (h : call table name given = .ok v) :
    v.IsBalanced := by
  unfold call at h
  split at h
  next helper _ => exact Helper.isBalanced_apply hg h
  next => cases h

mutual

theorem isBalanced_printed : ∀ {v : Value}, v.IsBalanced → Text.IsBalanced (printed v)
  | .null, _ => by
      rw [printed]
      exact Text.isBalanced_empty
  | .bool b, _ => by
      rw [printed]
      cases b <;> decide
  | .int n, _ => by
      rw [printed]
      exact Text.isBalanced_toString_int n
  | .float x, _ => by
      rw [printed]
      exact Text.isBalanced_double x
  | .text s, h => by
      rw [printed]
      exact (Value.isBalanced_text s).mp h
  | .list items, h => by
      rw [printed]
      have hitems := isBalanced_printedItems ((Value.isBalanced_list items).mp h)
      exact Text.IsBalanced.group .square rfl rfl (.intercalate (by decide) hitems)
  | .object _, _ => by
      rw [printed]
      decide

theorem isBalanced_printedItems : ∀ {items : List Value}, (∀ item ∈ items, item.IsBalanced) →
    ∀ s ∈ printedItems items, Text.IsBalanced s
  | [], _, _, hs => by simp [printedItems] at hs
  | item :: rest, h, s, hs => by
      obtain ⟨hitem, hrest⟩ := List.forall_mem_cons.mp h
      rw [printedItems] at hs
      rcases List.mem_cons.mp hs with rfl | hs
      · exact isBalanced_printed hitem
      · exact isBalanced_printedItems hrest s hs

end

end StepCommand.Template
