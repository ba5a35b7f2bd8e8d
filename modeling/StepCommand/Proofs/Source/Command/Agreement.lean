import StepCommand.Proofs.Assembly
import StepCommand.Proofs.Source.Command
import StepCommand.Proofs.Unique

namespace StepCommand

namespace Source.Command

-- A flag with the type, the name and the default of a parameter.
structure Flag.Registers (flag : Flag) (p : Parameter) : Prop where
  type : ∃ type, ParameterType.ofTag? p.kind = some type ∧ flag.setter = type.setter ∧
    flag.default = (Literal.ofDefault p.name type p.default).text
  field : flag.field = Name.exported p.name
  name : flag.name = p.name
  description : flag.description = p.description

-- `first` are the parameters without those that are declared again.
structure Interface.Agrees (i : Interface) (parameters first : List Parameter) : Prop where
  first_iff : ∀ p, p ∈ first ↔ parameters.find? (fun q => q.name = p.name) = some p
  fields : i.fields = first.map fun p => ⟨Name.exported p.name, p.kind, p.name⟩
  flags : List.Forall₂ Flag.Registers i.flags first
  addressed : i.flags.map Flag.field = i.fields.map Field.name
  distinct : (i.flags.map Flag.name).Nodup
  required : i.required = (parameters.filter Parameter.mandatory).map Parameter.name
  registered : ∀ name ∈ i.required, name ∈ i.flags.map Flag.name
  secrets : i.secrets = (first.filter Parameter.secret).map fun p => Name.exported p.name
  hidden : ∀ field ∈ i.secrets, field ∈ i.fields.map Field.name

end Source.Command

open Source.Command

variable {step : Step} {exportPrefix : Option String} {a : Assembly}

namespace Assembly

theorem map_name_flags (a : Assembly) :
    a.interface.flags.map Flag.name = a.parameters.map TypedParameter.name := by
  simp [interface, TypedParameter.flag, Function.comp_def]

theorem mem_declared_of_mem_parameters {p : TypedParameter} (h : p ∈ a.parameters) :
    p ∈ a.declared :=
  List.mem_of_find?_eq_some (mem_uniqueBy_iff.mp h)

theorem registers_flag {p : TypedParameter} (h : p.type.tag = p.declaration.kind) :
    p.flag.Registers p.declaration where
  type := ⟨p.type, by rw [← h, ParameterType.ofTag?_tag], rfl, rfl⟩
  field := rfl
  name := rfl
  description := rfl

theorem agrees_of_typed (h : ∀ p ∈ a.declared, p.type.tag = p.declaration.kind) :
    a.interface.Agrees (a.declared.map TypedParameter.declaration)
      (a.parameters.map TypedParameter.declaration) where
  first_iff p := by rw [map_declaration_parameters, mem_uniqueBy_iff]
  fields := by
    rw [interface, List.map_map]
    refine List.map_congr_left fun p hp => ?_
    rw [Function.comp_apply, ← h p (mem_declared_of_mem_parameters hp)]
    rfl
  flags := by
    rw [interface, List.forall₂_map_left_iff, List.forall₂_map_right_iff, List.forall₂_same]
    exact fun p hp => registers_flag (h p (mem_declared_of_mem_parameters hp))
  addressed := by
    simp [interface, TypedParameter.flag, TypedParameter.field, Function.comp_def]
  distinct := by
    rw [map_name_flags]
    exact nodup_map_uniqueBy TypedParameter.name a.declared
  required := by
    rw [interface, List.filter_map, List.map_map]
    rfl
  registered := by
    intro name hname
    obtain ⟨p, hp, rfl⟩ := List.mem_map.mp hname
    rw [map_name_flags]
    exact mem_map_uniqueBy_of_mem (List.mem_of_mem_filter hp)
  secrets := by
    rw [interface, Assembly.secrets, List.filter_map, List.map_map, List.map_map]
    rfl
  hidden := by
    intro field hfield
    simp only [interface, Assembly.secrets, List.map_map, List.mem_map] at hfield ⊢
    obtain ⟨p, hp, rfl⟩ := hfield
    exact ⟨p, List.mem_of_mem_filter hp, rfl⟩

end Assembly

end StepCommand
