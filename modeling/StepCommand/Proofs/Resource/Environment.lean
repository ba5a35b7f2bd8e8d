import StepCommand.Proofs.Name
import StepCommand.Proofs.Pathname
import StepCommand.Proofs.Resource.Persist
import StepCommand.Proofs.Resource.Struct
import StepCommand.Proofs.Source.Struct.Leaf

namespace StepCommand

open Resource (Entry)
open Source (Struct)
open Source.Struct (Part Leaf leavesOf leavesOf_append leavesOf_map_value leavesOf_map_group)
open Template

variable {stepName definition : String} {resource : Resource}

namespace Resource.Entry

variable (e : Entry)

def segments : List String := (Text.pieces '/' e.name.toList).map String.ofList

-- What stands before the first slash. It is empty if there is no slash, or nothing before it.
def category : String :=
  match e.segments with
  | first :: _ :: _ => first
  | _ => ""

-- What stands after the first slash, with the other slashes replaced.
def joinedName : String :=
  match e.segments with
  | _ :: name :: more => "_".intercalate (name :: more)
  | names => "_".intercalate names

def field : String := Name.exported e.joinedName

-- The way to the value in the type.
def path : String := if e.category = "" then e.field else e.category ++ ("." ++ e.field)

def part : Part := .value e.field (Name.memberType e.kind)

def leaf : Leaf := ⟨e.path, Name.memberType e.kind⟩

theorem variable_eq : e.variable = ⟨e.category, e.joinedName, Name.memberType e.kind⟩ := by
  cases hcut : Text.cutAt '/' e.name.toList with
  | none =>
      have hsegments : e.segments = [e.name] := by
        rw [segments, Text.pieces_of_cutAt_none hcut, List.map_singleton, String.ofList_toList]
      have hsplit : Environment.splitName e.name = ("", e.name) := by
        rw [Environment.splitName, hcut]
      rw [Entry.variable, hsplit, category, joinedName, hsegments]
      simp
  | some cut =>
      obtain ⟨before, after⟩ := cut
      obtain ⟨name, more, hmore⟩ := List.exists_cons_of_ne_nil (Text.pieces_ne_nil '/' after)
      have hsegments : e.segments =
          String.ofList before :: String.ofList name :: more.map String.ofList := by
        rw [segments, Text.pieces_of_cutAt hcut, hmore, List.map_cons, List.map_cons]
      have hjoined : "_".intercalate (String.ofList name :: more.map String.ofList) =
          String.ofList (after.map fun c => if c = '/' then '_' else c) := by
        rw [← Text.intercalate_pieces, hmore, ← List.map_cons, ← String.toList_inj,
          String.toList_intercalate]
        simp [Function.comp_def]
      have hsplit : Environment.splitName e.name = (String.ofList before,
          "_".intercalate (String.ofList name :: more.map String.ofList)) := by
        rw [Environment.splitName, hcut, hjoined]
      rw [Entry.variable, hsplit, category, joinedName, hsegments]

end Resource.Entry

namespace Resource

variable (r : Resource)

-- The entries of a category in their order; those of the empty one are at top level.
def inBlock (category : String) : List Entry := r.entries.filter fun e => e.category = category

def block (category : String) : Part := .group category ((r.inBlock category).map Entry.part)

-- The entries in the order in which the type declares them.
def laidOut (blocks : List String) : List Entry := r.inBlock "" ++ blocks.flatMap r.inBlock

theorem inCategory_ofResource (stepName category : String) :
    (Environment.ofResource stepName r).inCategory category =
      (r.inBlock category).map Entry.variable := by
  rw [Environment.ofResource_eq, Environment.inCategory, List.filter_map, inBlock]
  simp only [Function.comp_def, Entry.variable_eq]

theorem members_ofResource (stepName : String) :
    (Environment.ofResource stepName r).struct.members =
      (r.inBlock "").map Entry.part ++ r.categories.map r.block := by
  have hpart : ∀ category, ((r.inBlock category).map Entry.variable).map
      Environment.Variable.part = (r.inBlock category).map Entry.part := by
    intro category
    rw [List.map_map]
    refine List.map_congr_left fun e _ => ?_
    rw [Function.comp_apply, Entry.variable_eq]
    rfl
  have hblock : (Environment.ofResource stepName r).categoryPart = r.block := by
    funext category
    rw [Environment.categoryPart, inCategory_ofResource, hpart]
    rfl
  have hcategories : (Environment.ofResource stepName r).categories = r.categories := by
    rw [Environment.ofResource_eq]
  rw [Environment.struct, inCategory_ofResource, hpart, hblock, hcategories]

theorem leavesOf_inBlock (category : String) :
    leavesOf (if category = "" then "" else category ++ ".") ((r.inBlock category).map Entry.part) =
      (r.inBlock category).map Entry.leaf := by
  refine (leavesOf_map_value _ _ _).trans (List.map_congr_left fun e he => ?_)
  have hcategory : e.category = category := by simpa [inBlock] using (List.mem_filter.mp he).2
  by_cases hempty : category = ""
  · rw [Entry.leaf, Entry.path, hcategory, if_pos hempty, if_pos hempty, String.empty_append]
  · rw [Entry.leaf, Entry.path, hcategory, if_neg hempty, if_neg hempty, String.append_assoc]

-- Each category that is met is one of a value, and the first values decide on the order.
theorem categories_eq :
    r.categories = (uniqueFrom Entry.category [""] r.entries).map Entry.category := by
  have hcategory : (fun e : Entry => e.variable.category) = Entry.category := by
    funext e
    rw [Entry.variable_eq]
  have hmap : (uniqueFrom Entry.category [""] r.entries).map Entry.category =
      uniqueFrom id [""] (r.entries.map Entry.category) := map_uniqueFrom fun _ => rfl
  rw [hmap, categories, hcategory]
  exact uniqueFrom_filter id [] _ ""

-- Every entry has its place in the type, and only one.
theorem laidOut_perm : (r.laidOut r.categories).Perm r.entries := by
  have hnodup : ("" :: r.categories).Nodup := by
    rw [categories_eq, List.nodup_cons]
    refine ⟨?_, nodup_map_uniqueFrom _ _ _⟩
    intro hmem
    obtain ⟨e, he, hempty⟩ := List.mem_map.mp hmem
    exact (mem_uniqueFrom_iff.mp he).1 (hempty ▸ List.mem_cons_self)
  have hcategory : ∀ e ∈ r.entries, e.category ∈ "" :: r.categories := by
    intro e he
    by_cases hempty : e.category = ""
    · rw [hempty]
      exact List.mem_cons_self
    · refine List.mem_cons_of_mem _ (mem_categories_iff.mpr ⟨hempty, e, he, ?_⟩)
      rw [Entry.variable_eq]
  have hperm := flatMap_filter_perm Entry.category hnodup hcategory
  rwa [List.flatMap_cons] at hperm

theorem leaves_ofResource (stepName : String) :
    (Environment.ofResource stepName r).struct.leaves =
      (r.laidOut r.categories).map Entry.leaf := by
  have htop := r.leavesOf_inBlock ""
  have hblocks : leavesOf "" (r.categories.map r.block) =
      (r.categories.flatMap r.inBlock).map Entry.leaf := by
    rw [List.map_flatMap]
    refine (leavesOf_map_group _ _ _).trans (List.flatMap_congr fun category hcategory => ?_)
    have hname := r.leavesOf_inBlock category
    rw [if_neg (mem_categories_iff.mp hcategory).1] at hname
    rw [String.empty_append]
    exact hname
  rw [if_pos rfl] at htop
  rw [Struct.leaves, members_ofResource, leavesOf_append, htop, hblocks, ← List.map_append]
  rfl

end Resource

namespace Environment

-- A value with the category and the name under which it is stored, and the way to it.
structure Saved where
  category : String
  name : String
  path : String

def Saved.text (s : Saved) : String :=
  "\t\t\x7bcategory: \"" ++ (s.category ++ ("\", name: \"" ++ (s.name ++
    ("\", value: p." ++ (s.path ++ " \x7d,\n")))))

def savedLine : Template := [
  "\t\t\x7bcategory: \"", field "category", "\", name: \"", field "name", "\", value: p.",
  field "accessor", " \x7d,\n"]

def persist : Source.Persist where
  opening := "func (p *"
  head := literalsOf ((Source.Environment.storing.drop 3).take 1)
  values := "parameters"
  line := savedLine
  rest := literalsOf (Source.Environment.storing.drop 5)

theorem storing_eq : Source.Environment.storing = persist.template := rfl

def persistText (typeName : String) (saved : List Saved) : String :=
  persist.text typeName (saved.map Saved.text)

def Variable.saved (v : Variable) : Saved := ⟨v.category, v.name, v.accessor⟩

theorem fill_savedLine {scope : Scope} (v : Variable) (position : List (String × Value)) :
    fillAll .empty savedLine (scope.enter ⟨v.record, position⟩) = .ok v.saved.text := by
  have hcategory : (field "category").fill .empty (scope.enter ⟨v.record, position⟩) =
      .ok v.category := fill_field rfl rfl
  have hname : (field "name").fill .empty (scope.enter ⟨v.record, position⟩) = .ok v.name :=
    fill_field rfl rfl
  have haccessor : (field "accessor").fill .empty (scope.enter ⟨v.record, position⟩) =
      .ok v.accessor := fill_field rfl rfl
  simp only [savedLine, fillAll_cons, fillAll_nil, fill_text, hcategory, hname, haccessor,
    Except.ok_bind, String.append_empty]
  rfl

theorem render_storing (env : Environment) :
    render .empty Source.Environment.storing env.record =
      .ok (persistText env.typeName (env.members.map Variable.saved)) := by
  rw [storing_eq, persistText, List.map_map]
  exact persist.render_template rfl rfl fill_savedLine

end Environment

def Resource.Entry.saved (e : Entry) : Environment.Saved := ⟨e.category, e.joinedName, e.path⟩

theorem Resource.saved_ofResource (stepName : String) (r : Resource) :
    (Environment.ofResource stepName r).members.map Environment.Variable.saved =
      r.entries.map Entry.saved := by
  rw [Environment.ofResource_eq, List.map_map]
  refine List.map_congr_left fun e _ => ?_
  rw [Function.comp_apply, Entry.variable_eq, Environment.Variable.saved,
    Environment.Variable.accessor, Entry.saved, Entry.path, String.append_assoc]
  rfl

-- The categories of a resource have their blocks in the type, in the order in which they are met,
-- and what is stored stands in the order in which it is declared.
structure Environment.Persists (r : Resource) (struct : Struct) (blocks : List String)
    (saved : List Saved) : Prop where
  members_eq : struct.members = (r.inBlock "").map Entry.part ++ blocks.map r.block
  mem_blocks_iff : ∀ category,
    category ∈ blocks ↔ category ≠ "" ∧ ∃ e ∈ r.entries, e.category = category
  nodup : blocks.Nodup
  firstMet : blocks.Pairwise fun one other =>
    r.entries.findIdx (fun e => e.category = one) < r.entries.findIdx fun e => e.category = other
  block_ne_nil : ∀ category ∈ blocks, r.inBlock category ≠ []
  isIdentifier_category : ∀ category ∈ blocks, Name.isIdentifier category = true
  isIdentifier_field : ∀ e ∈ r.entries, Name.isIdentifier e.field = true
  laidOut_perm : (r.laidOut blocks).Perm r.entries
  leaves_eq : struct.leaves = (r.laidOut blocks).map Entry.leaf
  saved_eq : saved = r.entries.map Entry.saved
  paths_perm : (struct.leaves.map Leaf.path).Perm (saved.map Saved.path)

end StepCommand
