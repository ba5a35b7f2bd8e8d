import StepCommand.Proofs.Source.Listing.Accessor
import StepCommand.Proofs.Source.Stub

namespace StepCommand

open Source.Command
open Template (Shape ReadsOnly)

-- The items of both lists, those of each in their order.
inductive Merged {α : Type} : List α → List α → List α → Prop where
  | nil : Merged [] [] []
  | left {x : α} {xs ys zs : List α} (h : Merged xs ys zs) : Merged (x :: xs) ys (x :: zs)
  | right {y : α} {xs ys zs : List α} (h : Merged xs ys zs) : Merged xs (y :: ys) (y :: zs)

namespace Merged

variable {α β : Type} {xs ys zs : List α}

theorem map (f : α → β) (h : Merged xs ys zs) : Merged (xs.map f) (ys.map f) (zs.map f) := by
  induction h with
  | nil => exact .nil
  | left _ ih => exact .left ih
  | right _ ih => exact .right ih

end Merged

-- What is not built cannot fail either.
theorem Output.ofResources_merged {stepName : String} {resources added merged : List Resource}
    (h : Merged resources added merged) (hadded : ∀ r ∈ added, r.isBuilt = false) :
    ofResources stepName merged = ofResources stepName resources := by
  induction h with
  | nil => rfl
  | left _ ih => rw [ofResources, ofResources, ih hadded]
  | right _ ih =>
      obtain ⟨hfirst, hrest⟩ := List.forall_mem_cons.mp hadded
      rw [Resource.isBuilt, Option.isSome_eq_false_iff, Option.isNone_iff_eq_none] at hfirst
      simp only [ofResources, hfirst, ih hrest]

namespace Assembly

variable {a : Assembly} {resources : List Resource}

def withResources (a : Assembly) (resources : List Resource) : Assembly :=
  { a with step := { a.step with resources } }

theorem field?_withResources {name : String} (h : name ≠ "outputs") :
    (a.withResources resources).toValue.field? name = a.toValue.field? name := by
  simp only [toValue, Value.field?, List.lookup_cons, beq_false_of_ne h]
  rfl

theorem alike_withResources :
    (shape.without ["outputs"]).Alike a.toValue (a.withResources resources).toValue :=
  Shape.alike_without a.shape_admits rfl fun _ hname =>
    field?_withResources (List.ne_of_not_mem_cons hname)

end Assembly

-- Only the section of the resources in the accessor is filled from the list.
theorem Source.Command.beforeAccessor_reads :
    ReadsOnly .step beforeAccessor (Assembly.shape.without ["outputs"]) := by
  decide +kernel

-- All that resources do that are not built: they are listed among the others. Where there were
-- none, the section opens with them.
structure Assembly.IsExtended (a b : Assembly) (added : List Resource) : Prop where
  same : b = a.withResources b.step.resources
  kept : ∀ name, name ≠ "outputs" → b.toValue.field? name = a.toValue.field? name
  merged : Merged a.step.resources added b.step.resources
  listed : Merged (a.step.resources.map Resource.listing) (added.map Resource.listing)
    (b.step.resources.map Resource.listing)
  accessor : Template.render .step accessor a.toValue =
      .ok (a.step.listingWith a.step.outputsListing) ∧
    Template.render .step accessor b.toValue = .ok (a.step.listingWith b.step.outputsListing)
  command : ∃ before,
    SourceFile.command.content a = .ok (before ++ a.step.listingWith a.step.outputsListing) ∧
      SourceFile.command.content b = .ok (before ++ a.step.listingWith b.step.outputsListing)
  others : ∀ file ∈ SourceFile.all, file ≠ SourceFile.command → file.IsShared a b

variable {step : Step} {exportPrefix : Option String} {a : Assembly}
  {added resources : List Resource}

theorem Assembly.isExtended_withResources (ha : step.assemble exportPrefix = .ok a)
    (hb : { step with resources }.assemble exportPrefix = .ok (a.withResources resources))
    (h : Merged step.resources added resources) :
    a.IsExtended (a.withResources resources) added := by
  obtain ⟨rfl, _⟩ := Step.step_of_assemble ha
  obtain ⟨before, hbefore, haccessor, hcommand⟩ := Step.accessor_listing ha
  obtain ⟨other, hother, hextended, hfile⟩ := Step.accessor_listing hb
  have hsame : Template.render .step beforeAccessor (a.withResources resources).toValue =
      .ok before :=
    (Template.render_alike beforeAccessor_reads alike_withResources).symm.trans hbefore
  obtain rfl : other = before := Except.ok.inj (hother.symm.trans hsame)
  exact {
    same := rfl
    kept := fun _ hname => field?_withResources hname
    merged := h
    listed := h.map Resource.listing
    accessor := ⟨haccessor, hextended⟩
    command := ⟨other, hcommand, hfile⟩
    others := fun _ hmem hother => SourceFile.isShared_of_outputs hmem hother rfl rfl }

variable (step exportPrefix)

-- Wherever such resources are inserted, the accessor lists them there, and nothing else tells of
-- them.
theorem Step.assemble_unbuilt (h : Merged step.resources added resources)
    (hadded : ∀ r ∈ added, r.kind ≠ "piperEnvironment" ∧ r.kind ≠ "influx") :
    ((∃ b, { step with resources }.assemble exportPrefix = .ok b) ↔
      ∃ a, step.assemble exportPrefix = .ok a) ∧
    (∀ failure, { step with resources }.assemble exportPrefix = .error failure ↔
      step.assemble exportPrefix = .error failure) ∧
    ∀ a b, step.assemble exportPrefix = .ok a →
      { step with resources }.assemble exportPrefix = .ok b → a.IsExtended b added := by
  have hunbuilt : ∀ r ∈ added, r.isBuilt = false := by
    intro r hr
    rw [← Bool.not_eq_true, Resource.isBuilt_iff, not_or]
    exact hadded r hr
  have hassemble : { step with resources }.assemble exportPrefix =
      (step.assemble exportPrefix).map (·.withResources resources) :=
    assemble_map rfl rfl (Output.ofResources_merged h hunbuilt) fun _ _ => rfl
  cases ha : step.assemble exportPrefix with
  | error failure =>
      rw [ha] at hassemble
      simp [hassemble, Except.map]
  | ok a =>
      rw [ha] at hassemble
      have hb : { step with resources }.assemble exportPrefix =
          .ok (a.withResources resources) := hassemble
      refine ⟨by simp [hb], by simp [hb], ?_⟩
      intro _ b haeq hbeq
      cases haeq
      cases hb.symm.trans hbeq
      exact Assembly.isExtended_withResources ha hb h

-- Names that no built resource may have do not stop a step, and the first section opens with them.
theorem Step.assemble_unbuilt_malformed :
    let env : Resource := {
      name := "env"
      kind := "piperEnvironment"
      entries := [{ name := "git/commit" }] }
    let times : Resource := { name := "times", kind := "influx", entries := [{ name := "build" }] }
    let report : Resource := { name := "a report", kind := "file", entries := [{ name := "/" }] }
    let unnamed : Resource := { name := "", kind := "Influx", entries := [{ fields := [{}] }] }
    let step : Step := { name := "deploy", resources := [env, times] }
    let extended : Step := { name := "deploy", resources := [report, env, unnamed, times, report] }
    let bare : Step := { name := "deploy" }
    let reporting : Step := { name := "deploy", resources := [report] }
    (∃ a b, step.assemble none = .ok a ∧ extended.assemble none = .ok b ∧
      a.IsExtended b [report, unnamed, report]) ∧
    ∃ a b, bare.assemble none = .ok a ∧ reporting.assemble none = .ok b ∧
      a.IsExtended b [report] := by
  intro env times report unnamed step extended bare reporting
  have hstep : (step.assemble none).toOption.isSome = true := by decide +kernel
  have hbare : (bare.assemble none).toOption.isSome = true := by decide +kernel
  constructor
  · have hmerged : Merged step.resources [report, unnamed, report] extended.resources :=
      .right (.left (.right (.left (.right .nil))))
    obtain ⟨hok, _, hextended⟩ := Step.assemble_unbuilt step none hmerged (by decide +kernel)
    rcases ha : step.assemble none with failure | a
    · simp [ha, Except.toOption] at hstep
    obtain ⟨b, hb⟩ := hok.mpr ⟨a, ha⟩
    exact ⟨a, b, rfl, hb, hextended a b ha hb⟩
  · have hmerged : Merged bare.resources [report] reporting.resources := .right .nil
    obtain ⟨hok, _, hextended⟩ := Step.assemble_unbuilt bare none hmerged (by decide +kernel)
    rcases ha : bare.assemble none with failure | a
    · simp [ha, Except.toOption] at hbare
    obtain ⟨b, hb⟩ := hok.mpr ⟨a, ha⟩
    exact ⟨a, b, rfl, hb, hextended a b ha hb⟩

end StepCommand
