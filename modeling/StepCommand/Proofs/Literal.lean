import StepCommand.Literal
import StepCommand.Proofs.Pathname

namespace StepCommand.Literal

open Text (pieces pieces_append_separator pieces_ne_nil pieces_of_notMem notMem_of_mem_pieces)

variable {t : String} {texts : List String}

-- A raw string that is all of a text.
def rawContent? (s : String) : Option String :=
  match pieces '\x60' s.toList with
  | [[], content, []] => some (String.ofList content)
  | _ => none

-- What follows a raw string in a list: a comma and another one, or the end.
def moreContents? : List (List Char) → Option (List String)
  | [['}']] => some []
  | [',', ' '] :: content :: rest => (moreContents? rest).map (String.ofList content :: ·)
  | _ => none

-- The first raw string of a list reads as if a comma stood before it.
def listContents? (s : String) : Option (List String) :=
  match pieces '\x60' s.toList with
  | [] => none
  | start :: rest =>
      if start = "[]string\x7b\x7d".toList ∧ rest = [] then some []
      else if start = "[]string\x7b".toList then moreContents? ([',', ' '] :: rest)
      else none

example : listContents? "[]string\x7b`a`, ``, `b, c`\x7d" = some ["a", "", "b, c"] := by
  decide +kernel

-- Carriage returns in a raw string do not belong to its value.
def rawValue (content : String) : String := String.ofList (content.toList.filter (· ≠ '\r'))

-- A text that a raw string can hold.
structure IsRaw (t : String) : Prop where
  backquote : '\x60' ∉ t.toList
  returns : '\r' ∉ t.toList

theorem rawValue_eq_self_iff : rawValue t = t ↔ '\r' ∉ t.toList := by
  rw [← String.toList_inj, rawValue, String.toList_ofList, List.filter_eq_self]
  constructor
  · intro h hmem
    simpa using h _ hmem
  · intro h c hc
    have hne : c ≠ '\r' := fun heq => h (heq ▸ hc)
    simpa using hne

-- The first content ends at the first backquote of the text, so that it is never the whole text
-- if there is one.
theorem backquote_notMem_of_rawValue {content : List Char} (h : '\x60' ∉ content)
    (hvalue : rawValue (String.ofList content) = t) : '\x60' ∉ t.toList := by
  subst hvalue
  simp [rawValue, h]

theorem pieces_rawString (t : String) :
    pieces '\x60' (rawString t).toList = [] :: (pieces '\x60' t.toList ++ [[]]) := by
  have hlist : (rawString t).toList = [] ++ '\x60' :: (t.toList ++ '\x60' :: []) := by
    simp [rawString]
  rw [hlist, pieces_append_separator, pieces_append_separator]
  rfl

theorem rawContent?_of_notMem (h : '\x60' ∉ t.toList) : rawContent? (rawString t) = some t := by
  simp [rawContent?, pieces_rawString, pieces_of_notMem h]

theorem mem_pieces_of_rawContent? {content : String}
    (h : rawContent? (rawString t) = some content) :
    content.toList ∈ pieces '\x60' t.toList := by
  rw [rawContent?, pieces_rawString] at h
  obtain ⟨first, more, hp⟩ := List.exists_cons_of_ne_nil (pieces_ne_nil '\x60' t.toList)
  rw [hp] at h ⊢
  cases more with
  | nil =>
      cases h
      simp
  | cons second more => cases more <;> simp at h

theorem rawContent?_iff :
    (rawContent? (rawString t)).map rawValue = some t ↔ IsRaw t := by
  constructor
  · intro h
    obtain ⟨content, hcontent, hvalue⟩ := Option.map_eq_some_iff.mp h
    have hmem : content.toList ∈ pieces '\x60' t.toList := mem_pieces_of_rawContent? hcontent
    have hbackquote : '\x60' ∉ t.toList := backquote_notMem_of_rawValue (notMem_of_mem_pieces hmem)
      (by rwa [String.ofList_toList])
    rw [rawContent?_of_notMem hbackquote, Option.map_some, Option.some.injEq] at h
    exact ⟨hbackquote, rawValue_eq_self_iff.mp h⟩
  · intro h
    rw [rawContent?_of_notMem h.backquote, Option.map_some, rawValue_eq_self_iff.mpr h.returns]

-- What stands after the first raw string of a list.
def following (texts : List String) : List Char :=
  texts.flatMap (fun t => ',' :: ' ' :: '\x60' :: (t.toList ++ ['\x60'])) ++ ['}']

theorem toList_intercalate_rawString (t : String) (texts : List String) :
    (", ".intercalate ((t :: texts).map rawString)).toList ++ ['}'] =
      '\x60' :: (t.toList ++ '\x60' :: following texts) := by
  induction texts generalizing t with
  | nil => simp [rawString, following]
  | cons u rest ih =>
      have hrest := ih u
      simp only [List.map_cons] at hrest ⊢
      rw [String.intercalate_cons_cons, String.toList_append, List.append_assoc, hrest]
      simp [rawString, following]

theorem toList_stringList (t : String) (texts : List String) :
    (stringList (t :: texts)).toList =
      "[]string\x7b".toList ++ '\x60' :: (t.toList ++ '\x60' :: following texts) := by
  rw [← toList_intercalate_rawString t texts]
  simp [stringList]

theorem pieces_following_cons (t : String) (texts : List String) :
    pieces '\x60' (following (t :: texts)) =
      [',', ' '] :: (pieces '\x60' t.toList ++ pieces '\x60' (following texts)) := by
  have hlist : following (t :: texts) =
      [',', ' '] ++ '\x60' :: (t.toList ++ '\x60' :: following texts) := by
    simp [following]
  rw [hlist, pieces_append_separator, pieces_append_separator]
  rfl

theorem moreContents?_of_notMem (h : ∀ t ∈ texts, '\x60' ∉ t.toList) :
    moreContents? (pieces '\x60' (following texts)) = some texts := by
  induction texts with
  | nil => rfl
  | cons t rest ih =>
      have hrest := ih fun u hu => h u (List.mem_cons_of_mem _ hu)
      rw [pieces_following_cons, pieces_of_notMem (h t List.mem_cons_self)]
      simp [moreContents?, hrest]

theorem moreContents?_iff :
    (moreContents? (pieces '\x60' (following texts))).map (List.map rawValue) = some texts ↔
      ∀ t ∈ texts, IsRaw t := by
  constructor
  · intro h
    induction texts with
    | nil => simp
    | cons t rest ih =>
        obtain ⟨first, more, hp⟩ := List.exists_cons_of_ne_nil (pieces_ne_nil '\x60' t.toList)
        have hfirst : '\x60' ∉ first :=
          notMem_of_mem_pieces (hp ▸ List.mem_cons_self : first ∈ pieces '\x60' t.toList)
        rw [pieces_following_cons, hp, List.cons_append, moreContents?, Option.map_map] at h
        obtain ⟨contents, hcontents, heq⟩ := Option.map_eq_some_iff.mp h
        simp only [Function.comp_apply, List.map_cons, List.cons.injEq] at heq
        have hbackquote := backquote_notMem_of_rawValue hfirst heq.1
        rw [pieces_of_notMem hbackquote, List.cons.injEq] at hp
        obtain ⟨rfl, rfl⟩ := hp
        have hreturns : '\r' ∉ t.toList := rawValue_eq_self_iff.mp (by simpa using heq.1)
        have hrest := ih (by rw [← List.nil_append (pieces _ _), hcontents, Option.map_some, heq.2])
        exact List.forall_mem_cons.mpr ⟨⟨hbackquote, hreturns⟩, hrest⟩
  · intro h
    have hvalues : texts.map rawValue = texts :=
      (List.map_congr_left fun t ht => rawValue_eq_self_iff.mpr (h t ht).returns).trans
        (List.map_id texts)
    rw [moreContents?_of_notMem fun t ht => (h t ht).backquote, Option.map_some, hvalues]

theorem listContents?_stringList (texts : List String) :
    listContents? (stringList texts) = moreContents? (pieces '\x60' (following texts)) := by
  cases texts with
  | nil => decide +kernel
  | cons t rest =>
      have hstart : '\x60' ∉ "[]string\x7b".toList := by decide +kernel
      have hopen : "[]string\x7b".toList ≠ "[]string\x7b\x7d".toList := by decide +kernel
      rw [listContents?, toList_stringList, pieces_append_separator, pieces_append_separator,
        pieces_of_notMem hstart, pieces_following_cons]
      simp only [List.cons_append, List.nil_append, hopen, false_and, if_false, if_true]

-- A declared default reads as its texts exactly if raw strings can hold them, and lists of texts
-- that have no backquotes are told apart.
theorem declared_reads_iff (name : String) (value : Value) :
    ((rawContent? (ofDefault name .string (some value)).text).map rawValue = some value.plain ↔
        IsRaw value.plain) ∧
      ((listContents? (ofDefault name .stringList (some value)).text).map (List.map rawValue) =
          some (itemTexts value) ↔ ∀ t ∈ itemTexts value, IsRaw t) ∧
      ∀ other, (∀ t ∈ itemTexts value, '\x60' ∉ t.toList) →
        (∀ t ∈ itemTexts other, '\x60' ∉ t.toList) →
        ofDefault name .stringList (some value) = ofDefault name .stringList (some other) →
        itemTexts value = itemTexts other := by
  refine ⟨rawContent?_iff, ?_, ?_⟩
  · have hlist : listContents? (ofDefault name .stringList (some value)).text =
        moreContents? (pieces '\x60' (following (itemTexts value))) := listContents?_stringList _
    rw [hlist, moreContents?_iff]
  · intro other hvalue hother heq
    have htext : stringList (itemTexts value) = stringList (itemTexts other) :=
      congrArg Literal.text heq
    have hread := congrArg listContents? htext
    rw [listContents?_stringList, listContents?_stringList, moreContents?_of_notMem hvalue,
      moreContents?_of_notMem hother, Option.some.injEq] at hread
    exact hread

-- A text is the same default as the list of this text.
theorem declared_reads_iff_single :
    let value : Value := .text "a, b"
    let other : Value := .list [.text "a, b"]
    (∀ t ∈ itemTexts value, '\x60' ∉ t.toList) ∧ (∀ t ∈ itemTexts other, '\x60' ∉ t.toList) ∧
      ofDefault "tags" .stringList (some value) = ofDefault "tags" .stringList (some other) ∧
      itemTexts value = itemTexts other := by
  intro value other
  have hvalue : ∀ t ∈ itemTexts value, '\x60' ∉ t.toList := by decide +kernel
  have hother : ∀ t ∈ itemTexts other, '\x60' ∉ t.toList := by decide +kernel
  have heq : ofDefault "tags" .stringList (some value) =
      ofDefault "tags" .stringList (some other) := by decide +kernel
  exact ⟨hvalue, hother, heq, (declared_reads_iff "tags" value).2.2 other hvalue hother heq⟩

-- A backquote in a text ends its raw string, and what follows it may pass for another one.
theorem declared_backquote :
    let value : Value := .list [.text "a`, `b"]
    let other : Value := .list [.text "a", .text "b"]
    ofDefault "tags" .stringList (some value) = ofDefault "tags" .stringList (some other) ∧
      itemTexts value ≠ itemTexts other ∧
      rawContent? (ofDefault "host" .string (some (.text "a`b"))).text = none := by
  decide +kernel

end StepCommand.Literal
