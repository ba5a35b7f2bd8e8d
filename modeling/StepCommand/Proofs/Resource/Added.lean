import StepCommand.Proofs.Pathname
import StepCommand.Resource.Environment

namespace StepCommand.Environment

-- A value as it is declared.
structure Declared where
  name : String
  kind : Option String

-- The category is the first of the segments between the slashes, and the others make up the name.
def Declared.placed (d : Declared) : String × String :=
  if '/' ∈ d.name.toList then
    match d.name.toList.splitOn '/' with
    | [] => ("", "")
    | first :: rest => (String.ofList first, String.ofList (['_'].intercalate rest))
  else ("", d.name)

variable {env : Environment} {before declared : List Declared} {members more : List Variable}
  {categories : List String} {category : String} {v : Variable}

def Declared.variable (d : Declared) : Variable :=
  ⟨d.placed.1, d.placed.2, Name.memberType d.kind⟩

theorem placed_eq (d : Declared) : d.placed = splitName d.name := by
  rw [Declared.placed, splitName]
  cases hcut : Text.cutAt '/' d.name.toList with
  | none => rw [if_neg (Text.notMem_of_cutAt_none hcut)]
  | some cut =>
      obtain ⟨first, rest⟩ := cut
      have hmem : '/' ∈ d.name.toList := by simp [Text.eq_append_of_cutAt hcut]
      have hsegments : d.name.toList.splitOn '/' = first :: Text.pieces '/' rest := by
        rw [← Text.pieces_eq_splitOn, Text.pieces_of_cutAt hcut]
      rw [if_pos hmem, hsegments]
      simp only [Text.intercalate_pieces]

example : splitName "/a//b/" = ("", "a__b_") := by decide +kernel

-- The categories of values, each once, in the order in which they are first met. A value at top
-- level has none.
structure Lists (categories : List String) (members : List Variable) : Prop where
  nodup : categories.Nodup
  mem_iff : ∀ category,
    category ∈ categories ↔ category ≠ "" ∧ ∃ v ∈ members, v.category = category
  firstMet : categories.Pairwise fun one other =>
    members.findIdx (fun v => v.category = one) < members.findIdx fun v => v.category = other

theorem findIdx_lt_length (h : ∃ v ∈ members, v.category = category) :
    members.findIdx (fun v => v.category = category) < members.length := by
  obtain ⟨v, hv, hcategory⟩ := h
  exact List.findIdx_lt_length_of_exists ⟨v, hv, decide_eq_true hcategory⟩

-- A category is first met where it has been met before, whatever is added.
theorem findIdx_append_of_mem (h : ∃ v ∈ members, v.category = category) :
    (members ++ more).findIdx (fun v => v.category = category) =
      members.findIdx fun v => v.category = category := by
  rw [List.findIdx_append, if_pos (findIdx_lt_length h)]

theorem exists_mem_append_singleton_iff :
    (∃ w ∈ members ++ [v], w.category = category) ↔
      (∃ w ∈ members, w.category = category) ∨ v.category = category := by
  simp [or_and_right, exists_or]

namespace Lists

theorem nil : Lists [] [] := ⟨List.nodup_nil, by simp, List.Pairwise.nil⟩

theorem firstMet_append (h : Lists categories members) :
    categories.Pairwise fun one other =>
      (members ++ more).findIdx (fun v => v.category = one) <
        (members ++ more).findIdx fun v => v.category = other := by
  refine h.firstMet.imp_of_mem fun hone hother hlt => ?_
  rwa [findIdx_append_of_mem ((h.mem_iff _).mp hone).2,
    findIdx_append_of_mem ((h.mem_iff _).mp hother).2]

theorem keep (h : Lists categories members) (hv : v.category = "" ∨ v.category ∈ categories) :
    Lists categories (members ++ [v]) where
  nodup := h.nodup
  mem_iff category := by
    rw [h.mem_iff, exists_mem_append_singleton_iff]
    refine and_congr_right fun hne => ⟨.inl, fun hor => hor.elim id ?_⟩
    rintro rfl
    exact ((h.mem_iff _).mp (hv.resolve_left hne)).2
  firstMet := h.firstMet_append

theorem extend (h : Lists categories members) (hne : v.category ≠ "")
    (hnew : v.category ∉ categories) : Lists (categories ++ [v.category]) (members ++ [v]) where
  nodup := by
    refine List.nodup_append.mpr ⟨h.nodup, List.pairwise_singleton _ _, ?_⟩
    intro one hone other hother heq
    exact hnew (List.mem_singleton.mp hother ▸ heq ▸ hone)
  mem_iff category := by
    rw [List.mem_append, List.mem_singleton, h.mem_iff, exists_mem_append_singleton_iff]
    constructor
    · rintro (⟨hcategory, hmem⟩ | rfl)
      · exact ⟨hcategory, .inl hmem⟩
      · exact ⟨hne, .inr rfl⟩
    · rintro ⟨hcategory, hmem | rfl⟩
      · exact .inl ⟨hcategory, hmem⟩
      · exact .inr rfl
  firstMet := by
    -- No value has had the category, so that it is first met at the value that is added.
    have hnone : members.findIdx (fun w => w.category = v.category) = members.length := by
      refine List.findIdx_eq_length_of_false fun w hw => decide_eq_false fun hcategory => ?_
      exact hnew ((h.mem_iff _).mpr ⟨hne, w, hw, hcategory⟩)
    refine List.pairwise_append.mpr ⟨h.firstMet_append, List.pairwise_singleton _ _, ?_⟩
    intro one hone other hother
    obtain rfl := List.mem_singleton.mp hother
    have hmem := ((h.mem_iff _).mp hone).2
    rw [findIdx_append_of_mem hmem, List.findIdx_append, hnone, if_neg (Nat.lt_irrefl _)]
    exact Nat.lt_add_left _ (findIdx_lt_length hmem)

theorem add (h : Lists categories members) (v : Variable) :
    Lists (addCategory v.category categories) (members ++ [v]) := by
  rw [addCategory]
  split
  next hknown => exact h.keep hknown
  next hnew =>
    obtain ⟨hne, hmem⟩ := not_or.mp hnew
    exact h.extend hne hmem

end Lists

def addAll (env : Environment) (declared : List Declared) : Environment :=
  declared.foldl (fun env d => env.add d.name d.kind) env

-- The values of an environment are those that have been declared, and its categories are theirs.
structure Records (declared : List Declared) (env : Environment) : Prop where
  members_eq : env.members = declared.map Declared.variable
  lists : Lists env.categories env.members

-- Nothing that an environment holds is changed by what is added.
structure Keeps (env later : Environment) : Prop where
  stepName_eq : later.stepName = env.stepName
  name_eq : later.name = env.name
  members_prefix : env.members <+: later.members
  categories_prefix : env.categories <+: later.categories

theorem add_eq (env : Environment) (d : Declared) :
    env.add d.name d.kind = { env with
      members := env.members ++ [d.variable]
      categories := addCategory d.variable.category env.categories } := by
  rw [Declared.variable, placed_eq]
  rfl

theorem Records.add (h : Records declared env) (d : Declared) :
    Records (declared ++ [d]) (env.add d.name d.kind) := by
  rw [add_eq]
  exact ⟨by simp [h.members_eq], h.lists.add d.variable⟩

theorem Records.addAll (h : Records before env) (declared : List Declared) :
    Records (before ++ declared) (env.addAll declared) := by
  induction declared generalizing before env with
  | nil => rwa [List.append_nil]
  | cons d rest ih =>
      have hrest := ih (h.add d)
      rwa [List.append_assoc, List.singleton_append] at hrest

theorem Records.nil (stepName name : String) : Records [] { stepName, name } := ⟨rfl, .nil⟩

theorem prefix_addCategory (category : String) (categories : List String) :
    categories <+: addCategory category categories := by
  rw [addCategory]
  split
  · exact List.prefix_rfl
  · exact List.prefix_append _ _

theorem Keeps.add (env : Environment) (d : Declared) : Keeps env (env.add d.name d.kind) where
  stepName_eq := rfl
  name_eq := rfl
  members_prefix := List.prefix_append _ _
  categories_prefix := prefix_addCategory _ _

theorem Keeps.addAll (env : Environment) (declared : List Declared) :
    Keeps env (env.addAll declared) := by
  induction declared generalizing env with
  | nil => exact ⟨rfl, rfl, List.prefix_rfl, List.prefix_rfl⟩
  | cons d rest ih =>
      have hfirst := Keeps.add env d
      have hrest := ih (env.add d.name d.kind)
      exact {
        stepName_eq := hrest.stepName_eq.trans hfirst.stepName_eq
        name_eq := hrest.name_eq.trans hfirst.name_eq
        members_prefix := hfirst.members_prefix.trans hrest.members_prefix
        categories_prefix := hfirst.categories_prefix.trans hrest.categories_prefix }

-- Whatever is added, an environment records it in its order and keeps what it has. That of a
-- resource records the entries.
theorem records_addAll (stepName name : String) (before after : List Declared) :
    let env := addAll { stepName, name } before
    Records before env ∧ Keeps env (env.addAll after) ∧ env.stepName = stepName ∧
      env.name = name ∧ ∀ resource : Resource,
        Records (resource.entries.map fun e => ⟨e.name, e.kind⟩) (ofResource stepName resource) := by
  intro env
  have hbefore : Records before env := (Records.nil stepName name).addAll before
  have hkeeps : Keeps { stepName, name } env := .addAll _ before
  refine ⟨hbefore, .addAll env after, hkeeps.stepName_eq, hkeeps.name_eq,
    fun resource => ?_⟩
  have hresource := (Records.nil stepName resource.name).addAll
    (resource.entries.map fun e => ⟨e.name, e.kind⟩)
  rwa [addAll, List.foldl_map] at hresource

end StepCommand.Environment
