import StepCommand.Resource.Checked
import StepCommand.Source.Metric
import StepCommand.Step
import StepCommand.Template.Fill

namespace StepCommand

structure Metric.Field where
  name : String
  kind : String
deriving DecidableEq, Repr

-- A tag is always a text, so it has no type of its own.
structure Metric.Measurement where
  name : String
  fields : List Metric.Field
  tags : List String
deriving DecidableEq, Repr

-- Measurements that a step makes, with their fields and tags.
structure Metric where
  stepName : String
  name : String
  measurements : List Metric.Measurement
deriving DecidableEq, Repr

namespace Metric

open Resource (Named)

def Measurement.ofEntry (entry : Resource.Entry) : Measurement where
  name := entry.name
  fields := entry.fields.map fun field => ⟨field.name, Name.memberType field.kind⟩
  tags := entry.tags.map Member.name

def ofResource (stepName : String) (resource : Resource) : Metric where
  stepName := stepName
  name := resource.name
  measurements := resource.entries.map Measurement.ofEntry

def typeName (metric : Metric) : String := Resource.typeName metric.stepName metric.name

def memberRecord (name kind : String) : Value :=
  .object [("field", .text (Name.exported name)), ("type", .text kind)]

def Measurement.record (m : Measurement) : Value :=
  .object [
    ("name", .text m.name),
    ("fields", .list (m.fields.map fun field => memberRecord field.name field.kind)),
    ("tags", .list (m.tags.map fun tag => memberRecord tag "string"))]

-- `group` is the part of the measurement that the member belongs to.
def Measurement.entry (m : Measurement) (kind group name : String) : Value :=
  .object [("measurement", .text m.name), ("val_type", .text kind), ("name", .text name),
    ("accessor", .text (m.name ++ "." ++ group ++ "." ++ Name.exported name))]

-- What is stored of a measurement: its fields, then its tags.
def Measurement.entries (m : Measurement) : List Value :=
  m.fields.map (fun field => m.entry "InfluxField" "fields" field.name) ++
    m.tags.map (fun tag => m.entry "InfluxTag" "tags" tag)

def record (metric : Metric) : Value :=
  .object [
    ("struct_name", .text metric.typeName),
    ("measurements", .list (metric.measurements.map Measurement.record)),
    ("entries", .list (metric.measurements.flatMap Measurement.entries))]

def Measurement.names (m : Measurement) : List Named :=
  ⟨"measurement", m.name⟩ ::
    (m.fields.map (fun field => ⟨"field", Name.exported field.name⟩) ++
      m.tags.map (fun tag => ⟨"tag", Name.exported tag⟩))

def names (metric : Metric) : List Named := metric.measurements.flatMap Measurement.names

-- The type of the metric, and the method that stores it.
def definition (metric : Metric) : Except Failure String := do
  Resource.checkNames metric.name metric.names
  Template.fill "metricResource" .empty Source.Metric.template metric.record

end Metric

end StepCommand
