import StepCommand.Proofs.Template.Path
import StepCommand.Template.Parse

namespace StepCommand.Template

variable {d : Char} {name rest : List Char} {p : Path} {fuel : Nat}

-- What no constant and no word with a meaning of its own is taken for.
inductive IsOperand : List Char → Prop where
  | name {name : List Char} (h : IsWord name) (hreserved : name ∉ reserved)
      (helse : ¬"else".toList <+: name) : IsOperand name
  | marked (rest : List Char) : IsOperand ('@' :: rest)

theorem isOperand_of_isName (h : isName name = true) : IsOperand name := by
  have hword := isWord_of_isName h
  cases name with
  | nil => cases h
  | cons c rest =>
      simp only [isName, Bool.and_eq_true, Bool.not_eq_true', List.contains_eq_mem,
        decide_eq_false_iff_not] at h
      obtain ⟨⟨-, hreserved⟩, helse⟩ := h
      refine .name hword hreserved fun hprefix => ?_
      rw [← List.isPrefixOf_iff_prefix, helse] at hprefix
      cases hprefix

theorem isOperand_of_isPlain (h : p.isPlain = true) : IsOperand p.text.toList := by
  obtain ⟨text, target⟩ := p
  unfold Path.isPlain at h
  split at h
  next =>
    obtain rfl := eq_of_beq h
    have hreserved : "this".toList ∉ reserved := by decide_cbv
    have helse : ¬"else".toList <+: "this".toList := by decide_cbv
    exact .name Path.isWord_this hreserved helse
  next name _ =>
    simp only [Bool.and_eq_true, beq_iff_eq] at h
    obtain ⟨⟨hname, -⟩, rfl⟩ := h
    exact isOperand_of_isName hname
  next name _ =>
    simp only [Bool.and_eq_true, beq_iff_eq] at h
    obtain ⟨-, rfl⟩ := h
    simpa using IsOperand.marked ("root.".toList ++ name.toList)
  next =>
    have hlast : (⟨text, target⟩ : Path) = .last := eq_of_beq h
    rw [hlast]
    simpa [Path.last] using IsOperand.marked "last".toList

namespace IsOperand

variable {s : List Char} (h : IsOperand s)
include h

theorem head : ∃ c tail, s = c :: tail ∧ (c.isAlpha = true ∨ c = '@') := by
  cases h with
  | name h _ _ =>
      obtain ⟨c, tail, hs, hc⟩ := h.head
      exact ⟨c, tail, hs, .inl hc⟩
  | marked rest => exact ⟨_, _, rfl, .inr rfl⟩

theorem skipSpace : skipSpace (s ++ rest) = s ++ rest := by
  cases h with
  | name h _ _ => exact h.skipSpace
  | marked rest => rfl

theorem afterWord? {word : String} (hword : word ∈ ["as", "null", "true", "false", "else"]) :
    afterWord? word (s ++ '\x7d' :: rest) = none := by
  have hsymbols : ∀ word ∈ ["as", "null", "true", "false", "else"],
      word.toList.all isSymbol = true := by decide_cbv
  cases h with
  | name h hreserved helse =>
      refine afterWord?_eq_none (List.all_eq_true.mp (hsymbols word hword)) h ?_ (by decide)
      rintro rfl
      simp only [List.mem_cons, List.not_mem_nil, or_false] at hword
      obtain rfl | rfl | rfl | rfl | rfl := hword
      · exact hreserved (by decide_cbv)
      · exact hreserved (by decide_cbv)
      · exact hreserved (by decide_cbv)
      · exact hreserved (by decide_cbv)
      · exact helse List.prefix_rfl
  | marked tail =>
      simp only [List.mem_cons, List.not_mem_nil, or_false] at hword
      obtain rfl | rfl | rfl | rfl | rfl := hword <;>
        simp [Template.afterWord?, List.isPrefixOf?]

theorem isKeyword : isKeyword (s ++ '\x7d' :: rest) = false := by
  simp [Template.isKeyword, h.afterWord?]

-- Constants that are no words begin with a quote, a sign or a digit.
theorem constant : Constant.read? (s ++ '\x7d' :: rest) = none := by
  have hword : Constant.word? (s ++ '\x7d' :: rest) = none := by
    simp [Constant.word?, h.afterWord?]
  obtain ⟨c, tail, rfl, hc⟩ := h.head
  have hsign : c ≠ '-' := ne_of_isAlpha_or hc rfl (by decide)
  have hdigit : c.isDigit = false := by
    obtain hc | rfl := hc
    · exact isDigit_of_isAlpha hc
    · rfl
  have hnumber : Constant.number? (c :: tail ++ '\x7d' :: rest) = none := by
    have hminus : Constant.Numeral.sign (c :: tail ++ '\x7d' :: rest) =
        (false, c :: tail ++ '\x7d' :: rest) := by
      unfold Constant.Numeral.sign
      split
      next heq => exact absurd (List.cons.inj heq).1 hsign
      next => rfl
    have hdigits : Constant.digits? (c :: tail ++ '\x7d' :: rest) = none := by
      simp [Constant.digits?, hdigit]
    rw [Constant.number?, Constant.Numeral.read?, hminus]
    dsimp only
    rw [hdigits]
    rfl
  unfold Constant.read?
  split
  next heq => exact absurd (List.cons.inj heq).1 (ne_of_isAlpha_or hc rfl (by decide))
  next heq => exact absurd (List.cons.inj heq).1 (ne_of_isAlpha_or hc rfl (by decide))
  next => rw [hnumber, hword]; rfl

-- The name of an option would have an equals sign behind it.
theorem option? : Argument.option? fuel (s ++ '\x7d' :: rest) = none := by
  cases fuel with
  | zero => rw [Argument.option?]
  | succ fuel =>
      rw [Argument.option?]
      cases h with
      | name h _ _ =>
          rw [h.identifier? (by decide) (by decide)]
          rfl
      | marked tail =>
          have hmark : isSymbol '@' = false := by decide
          simp [Template.identifier?, hmark]

end IsOperand

namespace Argument

theorem read?_of_isPlain (h : p.isPlain = true) :
    read? (fuel + 1) (p.text.toList ++ '\x7d' :: rest) =
      some (.path p, '\x7d' :: rest) := by
  have hoperand := isOperand_of_isPlain h
  unfold read?
  rw [hoperand.isKeyword]
  simp only [Bool.false_eq_true, if_false]
  split
  next hconstant =>
    rw [hoperand.constant] at hconstant
    cases hconstant
  next heq =>
    obtain ⟨c, tail, htext, hc⟩ := hoperand.head
    rw [htext] at heq
    obtain ⟨rfl, -⟩ := List.cons.inj heq
    exact absurd hc (by decide)
  next => rw [Path.read?_of_isPlain h]; rfl

-- The end of a tag is no argument.
theorem all_nil : all fuel ('\x7d' :: rest) = ([], '\x7d' :: rest) := by
  have hsymbol : isSymbol '\x7d' = false := by decide
  have hoption : ∀ fuel, option? fuel ('\x7d' :: rest) = none := by
    intro fuel
    cases fuel <;> simp [option?, identifier?, hsymbol]
  have hkeyword : isKeyword ('\x7d' :: rest) = false := by
    simp [isKeyword, afterWord?, List.isPrefixOf?]
  have hconstant : Constant.read? ('\x7d' :: rest) = none := by
    simp [Constant.read?, Constant.number?, Constant.Numeral.read?, Constant.Numeral.sign,
      Constant.digits?, Constant.word?, afterWord?, List.isPrefixOf?]
  have hpath : Path.read? ('\x7d' :: rest) = none := by
    simp [Path.read?, Path.skipThis, Path.after?, List.isPrefixOf?, Path.outward, Path.name?,
      symbol?, hsymbol]
  have hread : ∀ fuel, read? fuel ('\x7d' :: rest) = none := by
    intro fuel
    cases fuel <;> simp [read?, hkeyword, hconstant, hpath]
  cases fuel with
  | zero => rw [all]
  | succ fuel => rw [all, hoption, hread]; rfl

theorem all_of_isPlain (h : p.isPlain = true) :
    all (fuel + 2) (p.text.toList ++ '\x7d' :: rest) = ([some (.path p)], '\x7d' :: rest) := by
  have hskip : skipSpace ('\x7d' :: rest) = '\x7d' :: rest := rfl
  rw [all, (isOperand_of_isPlain h).option?, read?_of_isPlain h]
  simp [all_nil, hskip]

end Argument

-- What stands between the braces of a tag.
inductive Label where
  | place (p : Path)
  | call (helper : String) (p : Path)
  | opening (part : String) (p : Path)
  | closing (part : String)

namespace Label

def source : Label → List Char
  | place p => p.text.toList
  | call helper p => helper.toList ++ ' ' :: p.text.toList
  | opening part p => '#' :: (part.toList ++ ' ' :: p.text.toList)
  | closing part => '/' :: part.toList

def tag : Label → Tag
  | place p => .node (.print (.path p))
  | call helper p => .node (.call helper [.path p])
  | opening part p => .opening part [.path p]
  | closing part => .closing part

def isPlain : Label → Bool
  | place p => p.isPlain
  | call helper p => isName helper.toList && p.isPlain
  | opening part p => isName part.toList && p.isPlain
  | closing part => isName part.toList

end Label

theorem endOfTag?_eq : endOfTag? ('\x7d' :: '\x7d' :: rest) = some rest := rfl

theorem IsOperand.isElse {s : List Char} (h : IsOperand s) (hd : isSymbol d = false)
    (rest : List Char) :
    isElse (s ++ d :: rest) = false := by
  have helse : "else".toList.all isSymbol = true := by decide_cbv
  unfold Template.isElse
  split
  next => rfl
  next more hmore =>
    cases h with
    | name h _ hprefix =>
        obtain ⟨tail, rfl, -⟩ := exists_of_isPrefixOf? (List.all_eq_true.mp helse) hd hmore
        exact absurd (List.prefix_append _ _) hprefix
    | marked tail => simp [List.isPrefixOf?] at hmore

theorem skipSpace_end : skipSpace ('\x7d' :: rest) = '\x7d' :: rest := rfl

-- A name alone is no call.
theorem called?_eq_none {s : List Char} (h : IsOperand s) :
    Argument.called? fuel (s ++ '\x7d' :: rest) = none := by
  cases fuel with
  | zero => rw [Argument.called?]
  | succ fuel =>
      rw [Argument.called?]
      cases h with
      | name h _ _ =>
          rw [h.identifier? (by decide) (by decide)]
          simp [skipSpace_end, Argument.all_nil]
      | marked tail =>
          have hmark : isSymbol '@' = false := by decide
          simp [identifier?, hmark]

theorem called?_of_isPlain (hname : IsWord name) (h : p.isPlain = true) :
    Argument.called? (fuel + 3) (name ++ ' ' :: (p.text.toList ++ '\x7d' :: rest)) =
      some (.call (String.ofList name) [.path p], '\x7d' :: rest) := by
  have hskip : skipSpace (' ' :: (p.text.toList ++ '\x7d' :: rest)) =
      p.text.toList ++ '\x7d' :: rest := (isOperand_of_isPlain h).skipSpace
  rw [Argument.called?, hname.identifier? (by decide) (by decide)]
  simp [hskip, Argument.all_of_isPlain h]

theorem expression?_place (h : p.isPlain = true) (rest : List Char) :
    expression? (p.text.toList ++ '\x7d' :: rest) = some (.print (.path p), '\x7d' :: rest) := by
  have hoperand := isOperand_of_isPlain h
  have hprinted : printed? (p.text.toList ++ '\x7d' :: rest) =
      some (.print (.path p), '\x7d' :: rest) := by
    unfold printed?
    split
    next heq =>
      obtain ⟨c, tail, htext, hc⟩ := hoperand.head
      rw [htext] at heq
      obtain ⟨rfl, -⟩ := List.cons.inj heq
      exact absurd hc (by decide)
    next => rw [Path.read?_of_isPlain h]; rfl
  rw [expression?, called?_eq_none hoperand, ← hprinted]

theorem expression?_call (hname : IsWord name) (h : p.isPlain = true) (rest : List Char) :
    expression? (name ++ ' ' :: (p.text.toList ++ '\x7d' :: rest)) =
      some (.call (String.ofList name) [.path p], '\x7d' :: rest) := by
  rw [expression?, Argument.fuelFor]
  rw [called?_of_isPlain hname h]

theorem tag?_of_head {tail : List Char} (hc : c.isAlpha = true ∨ c = '@') :
    tag? (c :: tail) =
      if isElse (c :: tail) then none
      else do
        let (node, rest) ← expression? (c :: tail)
        return (.node node, ← endOfTag? rest) := by
  have hspace : isTagSpace c = false := by
    simp [isTagSpace, ne_of_isAlpha_or hc (d := ' ') rfl, ne_of_isAlpha_or hc (d := '\t') rfl,
      ne_of_isAlpha_or hc (d := '\n') rfl, ne_of_isAlpha_or hc (d := '\r') rfl]
  have hskip : skipSpace (c :: tail) = c :: tail := by
    rw [skipSpace, List.dropWhile_cons_of_neg (by simp [hspace])]
  unfold tag?
  rw [hskip]
  split
  next heq => exact absurd (List.cons.inj heq).1 (ne_of_isAlpha_or hc rfl (by decide))
  next heq => exact absurd (List.cons.inj heq).1 (ne_of_isAlpha_or hc rfl (by decide))
  next heq => exact absurd (List.cons.inj heq).1 (ne_of_isAlpha_or hc rfl (by decide))
  next heq => exact absurd (List.cons.inj heq).1 (ne_of_isAlpha_or hc rfl (by decide))
  next => rfl

theorem opening?_eq (hname : IsWord name) (h : p.isPlain = true) (rest : List Char) :
    opening? (name ++ ' ' :: (p.text.toList ++ '\x7d' :: '\x7d' :: rest)) =
      some (.opening (String.ofList name) [.path p], rest) := by
  have hskip : skipSpace (' ' :: (p.text.toList ++ '\x7d' :: '\x7d' :: rest)) =
      p.text.toList ++ '\x7d' :: '\x7d' :: rest := (isOperand_of_isPlain h).skipSpace
  rw [opening?, hname.skipSpace, hname.identifier? (by decide) (by decide)]
  simp only [Option.bind_eq_bind, Option.bind_some, hskip, Argument.fuelFor]
  rw [Argument.all_of_isPlain h]
  rfl

theorem closing?_eq (hname : IsWord name) (rest : List Char) :
    closing? (name ++ '\x7d' :: '\x7d' :: rest) = some (.closing (String.ofList name), rest) := by
  rw [closing?, hname.skipSpace, hname.identifier? (by decide) (by decide)]
  rfl

-- What is written down as a tag is read as that tag, whatever follows.
theorem tag?_source {label : Label} (h : label.isPlain = true) :
    tag? (label.source ++ '\x7d' :: '\x7d' :: rest) = some (label.tag, rest) := by
  cases label with
  | place p =>
      have hoperand := isOperand_of_isPlain h
      have helse := hoperand.isElse (show isSymbol '\x7d' = false by decide) ('\x7d' :: rest)
      have hexpression := expression?_place h ('\x7d' :: rest)
      obtain ⟨c, tail, htext, hc⟩ := hoperand.head
      rw [htext, List.cons_append] at helse hexpression
      rw [Label.source, htext, List.cons_append, tag?_of_head hc, helse, hexpression]
      simp [endOfTag?_eq, Label.tag]
  | call helper p =>
      obtain ⟨hhelper, hp⟩ := Bool.and_eq_true_iff.mp h
      have hoperand := isOperand_of_isName hhelper
      have helse := hoperand.isElse (show isSymbol ' ' = false by decide)
        (p.text.toList ++ '\x7d' :: '\x7d' :: rest)
      have hexpression := expression?_call (isWord_of_isName hhelper) hp ('\x7d' :: rest)
      rw [String.ofList_toList] at hexpression
      obtain ⟨c, tail, htext, hc⟩ := hoperand.head
      rw [htext, List.cons_append] at helse hexpression
      rw [Label.source, htext, List.cons_append, List.cons_append, List.append_assoc,
        List.cons_append, tag?_of_head hc, helse, hexpression]
      simp [endOfTag?_eq, Label.tag]
  | opening part p =>
      obtain ⟨hpart, hp⟩ := Bool.and_eq_true_iff.mp h
      have hopening := opening?_eq (isWord_of_isName hpart) hp rest
      rw [String.ofList_toList] at hopening
      rw [Label.source, List.cons_append, List.append_assoc, List.cons_append]
      exact hopening
  | closing part =>
      have hclosing := closing?_eq (isWord_of_isName h) rest
      rw [String.ofList_toList] at hclosing
      exact hclosing

end StepCommand.Template
