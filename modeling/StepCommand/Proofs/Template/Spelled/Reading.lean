import StepCommand.Proofs.Template.Joined
import StepCommand.Proofs.Template.Spelled
import StepCommand.Template.Fill

namespace StepCommand.Template

variable {before after text pending rest : List Char} {own alone : Bool} {label : Label}
  {parts : List Open} {done : List Node} {template : Template}

-- The pieces that a text is cut into.
def Cuts (before text s : List Char) (pieces : List Piece) : Prop :=
  ∀ fuel, s.length < fuel → pieces? fuel before text s = some pieces

def Reads (before text : List Char) (alone : Bool) (parts : List Open) (done : List Node)
    (s : List Char) (template : Template) : Prop :=
  ∃ pieces, Cuts before text s pieces ∧ nest? parts done (trimLines alone pieces) = some template

theorem Cuts.char {c : Char} {s : List Char} {pieces : List Piece}
    (hc : c ≠ '\x7b' ∨ s.head? ≠ some '\x7b') (h : Cuts (c :: before) (c :: text) s pieces) :
    Cuts before text (c :: s) pieces := by
  intro fuel hfuel
  cases fuel with
  | zero => cases hfuel
  | succ fuel =>
      rw [← h fuel (Nat.lt_of_succ_lt_succ hfuel)]
      rw [pieces?]
      rintro rest rfl rfl
      simp at hc

theorem Cuts.textOnly {s : List Char} {pieces : List Piece} (hs : isTextOnly s = true)
    (h : Cuts (s.reverse ++ before) (s.reverse ++ text) rest pieces) :
    Cuts before text (s ++ rest) pieces := by
  fun_induction isTextOnly s generalizing before text with
  | case1 => exact h
  | case2 c =>
      simp only [Bool.and_eq_true, bne_iff_ne] at hs
      exact .char (.inl hs.1) h
  | case3 c d more ih =>
      simp only [Bool.and_eq_true, Bool.not_eq_true', Bool.and_eq_false_iff, beq_eq_false_iff_ne]
        at hs
      obtain ⟨hbraces, hmore⟩ := hs
      refine .char (hbraces.imp_right fun hd => by simpa using hd) (ih hmore ?_)
      simpa using h

-- Nothing before the tag takes its braces for text.
theorem Cuts.tag {pieces : List Piece} (hlabel : label.isPlain = true)
    (hlast : text.head? ≠ some '\\')
    (h : Cuts ((label.written false).reverse ++ before) [] rest pieces) :
    Cuts before text (label.written false ++ rest)
      (.text text.reverse :: .tag label.tag (isPart label.tag && standsAlone before rest) ::
        pieces) := by
  have hescaped : isEscaped text = false := by
    cases text with
    | nil => rfl
    | cons c tail =>
        have hc : c ≠ '\\' := by simpa using hlast
        simp [isEscaped, hc]
  have hdrop : dropOneOfMany text = text := by
    cases text with
    | nil => rfl
    | cons c tail =>
        have hc : c ≠ '\\' := by simpa using hlast
        simp [dropOneOfMany, hc]
  have htext : label.written false ++ rest =
      '\x7b' :: '\x7b' :: (label.source ++ '\x7d' :: '\x7d' :: rest) := by
    simp [Label.written]
  have hwhole : (label.written false ++ rest).take
      ((label.written false ++ rest).length - rest.length) = label.written false := by
    simp
  intro fuel hfuel
  cases fuel with
  | zero => cases hfuel
  | succ fuel =>
      have hrest : rest.length < fuel := by
        simp [Label.written] at hfuel
        omega
      rw [htext] at hwhole ⊢
      rw [pieces?, hescaped]
      simp only [Bool.false_eq_true, if_false, tag?_source hlabel, Option.bind_eq_bind,
        Option.bind_some]
      rw [hwhole, h fuel hrest, hdrop]
      rfl

-- What a tag does to the parts that are open and to the nodes so far.
def Tag.turn? : Tag → List Open → List Node → Option (List Open × List Node)
  | .node n, parts, done => some (parts, n :: done)
  | .opening name given, parts, done => some (⟨name, given, done⟩ :: parts, [])
  | .closing _, [], _ => none
  | .closing name, part :: outer, done =>
      if part.name = name then
        some (outer, partNode name part.given done.reverse :: part.before)
      else none

theorem nest?_tag {tag : Tag} {pieces : List Piece} :
    nest? parts done (.tag tag alone :: pieces) =
      (tag.turn? parts done).bind fun turned => nest? turned.1 turned.2 pieces := by
  cases tag with
  | node n => rw [nest?]; rfl
  | opening name given => rw [nest?]; rfl
  | closing name =>
      cases parts with
      | nil => rw [nest?]; rfl
      | cons part outer =>
          rw [nest?, Tag.turn?]
          split <;> rfl

theorem nest?_text {pieces : List Piece} :
    nest? parts done (.text text :: pieces) = nest? parts (Gathered.nodes ⟨text, done⟩) pieces := by
  rw [nest?, Gathered.nodes]
  split <;> rfl

theorem isStart_of_front (h : text <+: before) (hstart : isStart before = true) :
    isStart text = true := by
  obtain ⟨more, rfl⟩ := h
  cases text with
  | nil => rfl
  | cons c tail => simpa [isStart, startsAtBreak] using hstart

theorem dropWhile_of_isStart (h : isStart text = true) : text.dropWhile isLineSpace = text := by
  cases text with
  | nil => rfl
  | cons c tail =>
      have hbreak : isLineSpace c = false := by
        simp only [isStart, startsAtBreak, List.isEmpty_cons, Bool.false_or, Bool.or_eq_true,
          beq_iff_eq] at h
        obtain rfl | rfl := h <;> rfl
      rw [List.dropWhile_cons_of_neg (by simp [hbreak])]

-- The text since the last tag. If that tag has its line for itself, the end of the line is no part
-- of what is left of the text.
structure IsPending (before text : List Char) (alone : Bool) (pending : List Char) : Prop where
  latest : text <+: before
  last : text.head? ≠ some '\\'
  text : text.reverse = if alone then '\n' :: pending else pending

theorem IsPending.nil : IsPending before [] false [] where
  latest := List.nil_prefix
  last := by simp
  text := rfl

theorem IsPending.lineEnd : IsPending ('\n' :: before) ['\n'] true [] where
  latest := ⟨before, rfl⟩
  last := by simp
  text := rfl

theorem IsPending.trimmed (h : IsPending before text alone pending) :
    (if alone then dropBreak (text.reverse.dropWhile isLineSpace) else text.reverse) = pending := by
  rw [h.text]
  cases alone <;> rfl

-- No blanks stand before a tag at the start of a line.
theorem IsPending.trimLineEnd (h : IsPending before text alone pending)
    (hstart : isStart before = true) : trimLineEnd pending = pending := by
  have hlatest : pending.reverse <+: before := by
    refine List.IsPrefix.trans ?_ h.latest
    rw [← List.reverse_reverse text, h.text]
    cases alone <;> simp
  rw [Template.trimLineEnd, dropWhile_of_isStart (isStart_of_front hlatest hstart),
    List.reverse_reverse]

-- What is read from some place on, with `g` read so far.
def Resumes (before : List Char) (g : Gathered) (parts : List Open) (s : List Char)
    (template : Template) : Prop :=
  ∀ text alone, IsPending before text alone g.text → Reads before text alone parts g.done s template

theorem getLast?_ne_of_isTextOnly {s : List Char} (hs : isTextOnly s = true) :
    s.getLast? ≠ some '\\' := by
  fun_induction isTextOnly s with
  | case1 => simp
  | case2 c => simpa using (Bool.and_eq_true_iff.mp hs).2
  | case3 c d rest ih =>
      rw [List.getLast?_cons_cons]
      exact ih (Bool.and_eq_true_iff.mp hs).2

theorem Resumes.textOnly {s : List Char} {g : Gathered} (hs : isTextOnly s = true)
    (h : Resumes (s.reverse ++ before) ⟨g.text ++ s, g.done⟩ parts rest template) :
    Resumes before g parts (s ++ rest) template := by
  intro text alone hpending
  have hlast : (s.reverse ++ text).head? ≠ some '\\' := by
    rw [List.head?_append, List.head?_reverse]
    cases hc : s.getLast? with
    | none => exact hpending.last
    | some c =>
        have hs := getLast?_ne_of_isTextOnly hs
        rw [hc] at hs
        exact hs
  obtain ⟨pieces, hpieces, hnest⟩ := h (s.reverse ++ text) alone {
    latest := (List.prefix_append_right_inj _).mpr hpending.latest
    last := hlast
    text := by rw [List.reverse_append, List.reverse_reverse, hpending.text]; cases alone <;> rfl }
  exact ⟨pieces, hpieces.textOnly hs, hnest⟩

theorem standsAlone_eq_false (h : isInked before = true) : standsAlone before rest = false := by
  rw [isInked, Bool.and_eq_true, Bool.not_eq_true', Bool.not_eq_true'] at h
  rw [standsAlone, h.1, h.2, Bool.or_false, Bool.and_false]

theorem standsAlone_lineEnd (h : isStart before = true) :
    standsAlone before (lineEnd true ++ rest) = true := by
  have hbefore : (before.isEmpty || startsAtBreak before) = true := h
  rw [standsAlone, dropWhile_of_isStart h, hbefore]
  rfl

theorem Label.isStart_of_fits (h : label.fits true before = true) : isStart before = true := by
  obtain ⟨-, hown⟩ := Bool.and_eq_true_iff.mp h
  by_cases hpart : isPart label.tag = true
  · simpa [hpart] using hown
  · simp [hpart] at hown

-- A tag is taken to have its line for itself when it was written so.
theorem Label.alone_of_fits (h : label.fits own before = true) :
    (isPart label.tag && standsAlone before (lineEnd own ++ rest)) = own := by
  obtain ⟨-, hown⟩ := Bool.and_eq_true_iff.mp h
  cases own with
  | false =>
      by_cases hpart : isPart label.tag = true
      · simp only [hpart, if_true, cond_false] at hown
        rw [standsAlone_eq_false hown, Bool.and_false]
      · simp [hpart]
  | true =>
      by_cases hpart : isPart label.tag = true
      · rw [hpart, standsAlone_lineEnd (isStart_of_fits h), Bool.and_true]
      · simp [hpart] at hown

-- The end of the line behind a tag is read with the tag.
theorem Resumes.lineEnd {done : List Node}
    (h : Resumes ((label.written own).reverse ++ before) ⟨[], done⟩ parts rest template) :
    Reads ((label.written false).reverse ++ before) [] own parts done
      (lineEnd own ++ rest) template := by
  cases own with
  | false => exact h [] false .nil
  | true =>
      have hwritten : (label.written true).reverse ++ before =
          '\n' :: ((label.written false).reverse ++ before) := by
        simp [Label.written]
      rw [hwritten] at h
      obtain ⟨pieces, hpieces, hnest⟩ := h ['\n'] true .lineEnd
      exact ⟨pieces, hpieces.char (.inl (by decide)), hnest⟩

theorem Resumes.tag {g : Gathered} {turned : List Open × List Node}
    (hfits : label.fits own before = true)
    (hturn : label.tag.turn? parts g.nodes = some turned)
    (h : Resumes ((label.written own).reverse ++ before) ⟨[], turned.2⟩ turned.1 rest template) :
    Resumes before g parts (label.written own ++ rest) template := by
  intro text alone hpending
  obtain ⟨pieces, hpieces, hnest⟩ := h.lineEnd
  have hplain : label.isPlain = true := (Bool.and_eq_true_iff.mp hfits).1
  have hcuts := Cuts.tag hplain hpending.last hpieces
  rw [Label.alone_of_fits hfits] at hcuts
  have hwritten : label.written own ++ rest = label.written false ++ (Template.lineEnd own ++ rest) := by
    simp [Label.written]
  have htrim : trimLines alone (.text text.reverse :: .tag label.tag own :: pieces) =
      .text g.text :: .tag label.tag own :: trimLines own pieces := by
    cases own with
    | false => simp only [trimLines, hpending.trimmed]
    | true =>
        simp only [trimLines, hpending.trimmed, hpending.trimLineEnd (Label.isStart_of_fits hfits)]
  have hnodes : Gathered.nodes ⟨g.text, g.done⟩ = g.nodes := rfl
  rw [hwritten]
  refine ⟨_, hcuts, ?_⟩
  rw [htrim, nest?_text, nest?_tag, hnodes, hturn]
  exact hnest

-- Whatever comes before and after, the text between two places is read as `change` tells.
def Writes (before after : List Char) (change : Gathered → Gathered) : Prop :=
  ∃ s, after = s.reverse ++ before ∧ ∀ parts g rest template,
    Resumes after (change g) parts rest template → Resumes before g parts (s ++ rest) template

theorem Writes.place {n : Node} (hlabel : label.tag = .node n)
    (h : label.write? own before = some after) :
    Writes before after fun g => ⟨[], n :: g.nodes⟩ := by
  obtain ⟨hfits, rfl⟩ := Label.fits_of_write? h
  refine ⟨label.written own, rfl, fun parts g rest template hrest => ?_⟩
  exact .tag hfits (by rw [hlabel]; rfl) hrest

theorem Writes.part {name : String} {p : Path} {body : List Node} {n : Node}
    (hbody : ∀ {before after}, spellAll? body before = some after →
      Writes before after (gatherAll body))
    (hnode : partNode name [.path p] (gatherAll body {}).nodes.reverse = n)
    (h : part? name p (spellAll? body) before = some after) :
    Writes before after fun g => ⟨[], n :: g.nodes⟩ := by
  obtain ⟨opened, hopened, h⟩ := followed_eq_some_iff.mp h
  obtain ⟨inside, hinside, hclosed⟩ := followed_eq_some_iff.mp h
  obtain ⟨hopening, rfl⟩ := Label.fits_of_write? hopened
  obtain ⟨hclosing, rfl⟩ := Label.fits_of_write? hclosed
  obtain ⟨s, rfl, hs⟩ := hbody hinside
  refine ⟨(Label.opening name p).written (isStart before) ++
    (s ++ (Label.closing name).written (isStart before)), by simp, ?_⟩
  intro parts g rest template hrest
  have hturn : (Label.closing name).tag.turn? (⟨name, [.path p], g.nodes⟩ :: parts)
      (gatherAll body {}).nodes = some (parts, n :: g.nodes) := by
    simp [Label.tag, Tag.turn?, hnode]
  rw [List.append_assoc, List.append_assoc]
  exact .tag hopening rfl (hs _ _ _ _ (.tag hclosing hturn hrest))

mutual

theorem writes_of_spell? : {node : Node} → {before after : List Char} →
    node.spell? before = some after → Writes before after node.gather
  | .text s, before, after, h => by
      obtain ⟨hs, hafter⟩ := writeText?_eq_some_iff.mp h
      exact ⟨s.toList, hafter.symm, fun _ _ _ _ hrest => .textOnly hs (hafter ▸ hrest)⟩
  | .print (.path p), _, _, h => .place rfl h
  | .call helper [.path p], _, _, h => .place rfl h
  | .ifTrue (.path p) body, _, _, h => .part (fun hs => writes_of_spellAll? hs) rfl h
  | .ifFalse (.path p) body, _, _, h => .part (fun hs => writes_of_spellAll? hs) rfl h
  | .each (.path p) body, _, _, h => .part (fun hs => writes_of_spellAll? hs) rfl h
  | .within (.path p) body, _, _, h => .part (fun hs => writes_of_spellAll? hs) rfl h

theorem writes_of_spellAll? : {template : List Node} → {before after : List Char} →
    spellAll? template before = some after → Writes before after (gatherAll template)
  | [], before, after, h => by
      obtain rfl := Option.some.inj h
      exact ⟨[], rfl, fun _ _ _ _ hrest => hrest⟩
  | node :: rest, before, after, h => by
      obtain ⟨between, hnode, hrest⟩ := followed_eq_some_iff.mp h
      obtain ⟨s, rfl, hs⟩ := writes_of_spell? hnode
      obtain ⟨t, rfl, ht⟩ := writes_of_spellAll? hrest
      refine ⟨s ++ t, by simp, fun parts g more template hmore => ?_⟩
      rw [List.append_assoc]
      exact hs _ _ _ _ (ht _ _ _ _ hmore)

end

-- A template that is written down is read as it was, with its texts joined.
theorem parse?_of_spelling? {s : String} (h : spelling? template = some s.toList) :
    parse? s = some (joined template) := by
  obtain ⟨after, hafter, hs⟩ := Option.map_eq_some_iff.mp h
  obtain ⟨t, rfl, ht⟩ := writes_of_spellAll? hafter
  have hend : Resumes (t.reverse ++ []) (gatherAll template {}) [] [] (joined template) := by
    intro text alone hpending
    refine ⟨[.text text.reverse], ?_, ?_⟩
    · intro fuel hfuel
      cases fuel with
      | zero => cases hfuel
      | succ fuel => rw [pieces?]
    · simp only [trimLines, hpending.trimmed]
      rw [nest?_text, nest?]
      rfl
  obtain ⟨pieces, hpieces, hnest⟩ := ht [] {} [] (joined template) hend [] false .nil
  have htext : s.toList = t := by simpa using hs.symm
  rw [List.append_nil] at hpieces
  rw [parse?, ← String.length_toList, htext, hpieces _ (Nat.lt_succ_self _)]
  exact hnest

theorem fillText_of_spelling? {s name : String} {table : Table} {record : Value}
    (h : spelling? template = some s.toList) :
    fillText name table s record = fill name table template record := by
  rw [fillText, parse?_of_spelling? h]
  simp only [fill, render, fillAll_joined]

end StepCommand.Template
