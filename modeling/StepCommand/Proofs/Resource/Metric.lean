import StepCommand.Proofs.Resource.Persist
import StepCommand.Proofs.Resource.Stored
import StepCommand.Proofs.Resource.Struct
import StepCommand.Proofs.Source.Struct.Leaf

namespace StepCommand

open Resource (Entry)
open Source (Struct)
open Source.Struct (Part Leaf leavesOf leavesOf_eq_flatMap leavesOf_map_value)
open Template

variable {stepName definition : String} {resource : Resource}

namespace Metric

-- A member with what it is and the names under which it is stored, and the way to it.
structure Saved where
  kind : String
  measurement : String
  name : String
  path : String

def Saved.text (s : Saved) : String :=
  "\t\t\x7bvalType: config." ++ (s.kind ++ (", measurement: \"" ++ (s.measurement ++
    ("\", name: \"" ++ (s.name ++ ("\", value: i." ++ (s.path ++ " \x7d,\n")))))))

def savedLine : Template := [
  "\t\t\x7bvalType: config.", field "val_type", ", measurement: \"", field "measurement",
  "\", name: \"", field "name", "\", value: i.", field "accessor", " \x7d,\n"]

def persist : Source.Persist where
  opening := "func (i *"
  head := literalsOf ((Source.Metric.storing.drop 3).take 1)
  values := "entries"
  line := savedLine
  rest := literalsOf (Source.Metric.storing.drop 5)

theorem storing_eq : Source.Metric.storing = persist.template := rfl

def persistText (typeName : String) (saved : List Saved) : String :=
  persist.text typeName (saved.map Saved.text)

def Stored.saved (s : Stored) : Saved :=
  ⟨s.kind, s.measurement.name, s.name,
    s.measurement.name ++ "." ++ s.group ++ "." ++ Name.exported s.name⟩

theorem fill_savedLine {scope : Scope} (s : Stored) (position : List (String × Value)) :
    fillAll .empty savedLine (scope.enter ⟨s.record, position⟩) = .ok s.saved.text := by
  have hkind : (field "val_type").fill .empty (scope.enter ⟨s.record, position⟩) =
      .ok s.kind := fill_field rfl rfl
  have hmeasurement : (field "measurement").fill .empty (scope.enter ⟨s.record, position⟩) =
      .ok s.measurement.name := fill_field rfl rfl
  have hname : (field "name").fill .empty (scope.enter ⟨s.record, position⟩) = .ok s.name :=
    fill_field rfl rfl
  have haccessor : (field "accessor").fill .empty (scope.enter ⟨s.record, position⟩) =
      .ok s.saved.path := fill_field rfl rfl
  simp only [savedLine, fillAll_cons, fillAll_nil, fill_text, hkind, hmeasurement, hname,
    haccessor, Except.ok_bind, String.append_empty]
  rfl

theorem render_storing (metric : Metric) :
    render .empty Source.Metric.storing metric.record =
      .ok (persistText metric.typeName
        ((metric.measurements.flatMap Measurement.stored).map Stored.saved)) := by
  have hvalues : metric.record.field? "entries" =
      some (.list ((metric.measurements.flatMap Measurement.stored).map Stored.record)) := by
    rw [← flatMap_entries]
    rfl
  rw [storing_eq, persistText, List.map_map]
  exact persist.render_template rfl hvalues fill_savedLine

end Metric

namespace Resource.Entry

variable (e : Entry)

def fieldPath (f : Member) : String := e.name ++ (".fields." ++ Name.exported f.name)

def tagPath (tag : Member) : String := e.name ++ (".tags." ++ Name.exported tag.name)

-- Tags are texts, whatever type they are given.
def measurementPart : Part :=
  .group e.name [
    .group "fields" (e.fields.map fun f => .value (Name.exported f.name) (Name.memberType f.kind)),
    .group "tags" (e.tags.map fun tag => .value (Name.exported tag.name) "string")]

def measurementLeaves : List Leaf :=
  e.fields.map (fun f => ⟨e.fieldPath f, Name.memberType f.kind⟩) ++
    e.tags.map fun tag => ⟨e.tagPath tag, "string"⟩

def measurementSaved : List Metric.Saved :=
  e.fields.map (fun f => ⟨"InfluxField", e.name, f.name, e.fieldPath f⟩) ++
    e.tags.map fun tag => ⟨"InfluxTag", e.name, tag.name, e.tagPath tag⟩

theorem part_ofEntry : (Metric.Measurement.ofEntry e).part = e.measurementPart := by
  rw [Metric.Measurement.part, Metric.Measurement.ofEntry, List.map_map, List.map_map]
  rfl

theorem fieldPath_eq (f : Member) :
    e.fieldPath f = e.name ++ ("." ++ ("fields" ++ ("." ++ Name.exported f.name))) := by
  have hgroup : ".fields." = "." ++ ("fields" ++ ".") := rfl
  rw [fieldPath, hgroup, String.append_assoc, String.append_assoc]

theorem tagPath_eq (tag : Member) :
    e.tagPath tag = e.name ++ ("." ++ ("tags" ++ ("." ++ Name.exported tag.name))) := by
  have hgroup : ".tags." = "." ++ ("tags" ++ ".") := rfl
  rw [tagPath, hgroup, String.append_assoc, String.append_assoc]

theorem saved_ofEntry : (Metric.Measurement.ofEntry e).stored.map Metric.Stored.saved =
    e.measurementSaved := by
  simp only [Metric.Measurement.stored, Metric.Measurement.ofEntry, List.map_append, List.map_map,
    Function.comp_def, Metric.Stored.saved, measurementSaved, fieldPath_eq, tagPath_eq,
    String.append_assoc]

theorem leavesFrom_measurementPart :
    e.measurementPart.leavesFrom "" = e.measurementLeaves := by
  simp only [measurementPart, Part.leavesFrom, leavesOf, leavesOf_map_value, measurementLeaves,
    fieldPath_eq, tagPath_eq, String.append_assoc, String.empty_append, List.append_nil]

theorem map_path_measurementSaved :
    e.measurementSaved.map Metric.Saved.path = e.measurementLeaves.map Leaf.path := by
  simp only [measurementSaved, measurementLeaves, List.map_append, List.map_map]
  rfl

end Resource.Entry

-- Measurements have their blocks in the type in their order, and each member has one line of what
-- is stored, the fields of a measurement before its tags.
structure Metric.Persists (r : Resource) (struct : Struct) (saved : List Saved) : Prop where
  members_eq : struct.members = r.entries.map Entry.measurementPart
  isIdentifier_measurement : ∀ e ∈ r.entries, Name.isIdentifier e.name = true
  isIdentifier_member : ∀ e ∈ r.entries, ∀ member ∈ e.fields ++ e.tags,
    Name.isIdentifier (Name.exported member.name) = true
  leaves_eq : struct.leaves = r.entries.flatMap Entry.measurementLeaves
  saved_eq : saved = r.entries.flatMap Entry.measurementSaved
  paths_eq : saved.map Saved.path = struct.leaves.map Leaf.path

theorem Metric.isIdentifier_of_names {e : Entry}
    (h : ∀ n ∈ (Measurement.ofEntry e).names, n.isSound = true) :
    Name.isIdentifier e.name = true ∧ ∀ member ∈ e.fields ++ e.tags,
      Name.isIdentifier (Name.exported member.name) = true := by
  simp only [Measurement.names, Measurement.ofEntry, List.map_map, List.forall_mem_cons,
    List.forall_mem_append, List.forall_mem_map] at h
  obtain ⟨hname, hfields, htags⟩ := h
  exact ⟨hname, List.forall_mem_append.mpr ⟨hfields, htags⟩⟩

theorem Metric.members_ofResource (stepName : String) (r : Resource) :
    (ofResource stepName r).struct.members = r.entries.map Entry.measurementPart := by
  rw [struct, ofResource, List.map_map]
  exact List.map_congr_left fun e _ => e.part_ofEntry

theorem Metric.leaves_ofResource (stepName : String) (r : Resource) :
    (ofResource stepName r).struct.leaves = r.entries.flatMap Entry.measurementLeaves := by
  rw [Struct.leaves, members_ofResource, leavesOf_eq_flatMap, List.flatMap_map]
  exact List.flatMap_congr fun e _ => e.leavesFrom_measurementPart

theorem Metric.saved_ofResource (stepName : String) (r : Resource) :
    ((ofResource stepName r).measurements.flatMap Measurement.stored).map Stored.saved =
      r.entries.flatMap Entry.measurementSaved := by
  rw [ofResource, List.flatMap_map, List.map_flatMap]
  exact List.flatMap_congr fun e _ => e.saved_ofEntry

end StepCommand
