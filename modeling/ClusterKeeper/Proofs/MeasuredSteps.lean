import ClusterKeeper.Proofs.RetriedSteps
import ClusterKeeper.Reconciler
import Mathlib.Data.List.Induction

/-!
# Measuring is transparent

Measuring and retrying go around each other in either order with the same outcome. Only
what is measured tells them apart: blocks if measuring is on the outside, attempts if it
is on the inside. A builder puts it on the outside.
-/

set_option autoImplicit false

namespace ClusterKeeper

variable {S : Signature} {α K σ : Type} {Value : σ → Type}

namespace Middleware

def measuringOutside (policy : RetryPolicy) (project : String) : Middleware S :=
  (measuring project).surrounding (retrying policy)

def measuringInside (policy : RetryPolicy) (project : String) : Middleware S :=
  (retrying policy).surrounding (measuring project)

theorem uniform_measuringOutside (policy : RetryPolicy) (project : String) :
    Uniform (measuringOutside (S := Asking Value) policy project)
      (measuringOutside (S := S) policy project) :=
  (uniform_measuring project).surrounding (uniform_retrying policy)

theorem uniform_measuringInside (policy : RetryPolicy) (project : String) :
    Uniform (measuringInside (S := Asking Value) policy project)
      (measuringInside (S := S) policy project) :=
  (uniform_retrying policy).surrounding (uniform_measuring project)

end Middleware

section Steps

variable (policy : RetryPolicy) (project resource : String) (o : Operation) (a : Action S α)

theorem unmeasured_outside :
    ((Middleware.measuringOutside policy project).around resource o a).interpret
        (Engine.muting Report.isMeasured) =
      ((Middleware.retrying policy).around resource o a).interpret
        (Engine.muting Report.isMeasured) :=
  unmeasured_measuring ..

theorem unmeasured_inside :
    ((Middleware.measuringInside policy project).around resource o a).interpret
        (Engine.muting Report.isMeasured) =
      ((Middleware.retrying policy).around resource o a).interpret
        (Engine.muting Report.isMeasured) := by
  rw [passes_unmeasured.retrying, ← unmeasured_measuring project resource o a]
  exact passes_unmeasured.retrying ..

theorem unmeasured_retried (s : σ) :
    ((Middleware.retrying policy).around resource o
        (Asking.ask s : Action (Asking Value) (Value s))).interpret
          (Engine.muting Report.isMeasured) =
      (Middleware.retrying policy).around resource o (Asking.ask s) :=
  passes_unmeasured.retrying ..

end Steps

def Measurement.duration? : Measurement → Option (MetricLabels × Bool)
  | .duration labels succeeded => some (labels, succeeded)
  | .failure _ _ => none

def Measurement.failure? : Measurement → Option (MetricLabels × String)
  | .failure labels category => some (labels, category)
  | .duration _ _ => none

def Taken.failure? (k : Taken Value) : Option String :=
  match k.result with
  | .ok _ => none
  | .error e => some e.category

structure Records (resource project : String) (operation : σ → Operation)
    (t : Transcript (Asking Value)) (steps : List (Taken Value)) : Prop where
  durations : (measuredIn t).filterMap Measurement.duration? =
    steps.map fun k => (⟨resource, operation k.step, project⟩, k.result.isOk)
  failures : (measuredIn t).filterMap Measurement.failure? = steps.filterMap fun k =>
    k.failure?.map fun category => (⟨resource, operation k.step, project⟩, category)

theorem records_of_measured {resource project : String} {operation : σ → Operation}
    {t : Transcript (Asking Value)} {steps : List (Taken Value)}
    (h : measuredIn t = steps.flatMap fun k =>
      Middleware.measurements ⟨resource, operation k.step, project⟩ k.result) :
    Records resource project operation t steps := by
  refine ⟨?_, ?_⟩ <;> rw [h] <;> clear h <;> induction steps with
  | nil => rfl
  | cons k steps ih =>
    rw [List.flatMap_cons, List.filterMap_append, ih]
    obtain ⟨s, c, e | v, c'⟩ := k <;> rfl

/-- What the two middlewares make of a resource in either order, next to retrying alone.
Runs are those of protocols with the steps filled in. Muted, they are the same; measuring
on the outside records blocks, and on the inside attempts. -/
structure Composes (policy : RetryPolicy) (project resource : String)
    (operation : σ → Operation) (retried outside inside : Program (Engine S) α)
    (bare : Program (Engine (Asking Value)) α)
    (under : Middleware (Asking Value) → Program (Engine (Asking Value)) α)
    (fill : (x : (Engine (Asking Value)).Call) →
      Program (Engine S) ((Engine (Asking Value)).Reply x)) : Prop where
  retried_run : retried = (under (.retrying policy)).interpret fill
  outside_run : outside = (under (.measuringOutside policy project)).interpret fill
  inside_run : inside = (under (.measuringInside policy project)).interpret fill
  outside_alike : outside.unmeasured = retried.unmeasured
  inside_alike : inside.unmeasured = retried.unmeasured
  outside_muted : (under (.measuringOutside policy project)).unmeasured = under (.retrying policy)
  inside_muted : (under (.measuringInside policy project)).unmeasured = under (.retrying policy)
  outside_records : ∀ t a, (under (.measuringOutside policy project)).Ends t a →
    ∃ blocks, InBlocks policy operation bare t a blocks ∧
      Records resource project operation t (blocks.map Block.toTaken)
  inside_records : ∀ t a, (under (.measuringInside policy project)).Ends t a →
    ∃ blocks, InBlocks policy operation bare t a blocks ∧
      Records resource project operation t (takenIn t)

section Order

variable {policy : RetryPolicy} {project resource : String} {operation : σ → Operation}
  {bare : Program (Engine (Asking Value)) α}
  {under : Middleware (Asking Value) → Program (Engine (Asking Value)) α}
  (hbare : ∀ log a, bare.Ends log a → ∃ steps : List (Taken Value), log = steps.map Taken.entry)
  (hunder : ∀ m, under m = bare.interpret (Asking.filling fun s =>
    m.around resource (operation s) (Asking.ask s)))
  {t : Transcript (Asking Value)} {a : α}

include hbare hunder

theorem records_outside (h : (under (.measuringOutside policy project)).Ends t a) :
    ∃ blocks, InBlocks policy operation bare t a blocks ∧
      Records resource project operation t (blocks.map Block.toTaken) := by
  rw [hunder] at h
  obtain ⟨blocks, hblocks, hmeasured⟩ := inBlocks hbare
    ((tries_retried policy operation resource).measuring project resource) h
  refine ⟨blocks, hblocks, records_of_measured ?_⟩
  rw [hmeasured, List.flatMap_map]

theorem records_inside (h : (under (.measuringInside policy project)).Ends t a) :
    ∃ blocks, InBlocks policy operation bare t a blocks ∧
      Records resource project operation t (takenIn t) := by
  rw [hunder] at h
  obtain ⟨blocks, hblocks, hmeasured⟩ := inBlocks hbare
    (tries_retrying (single_measuring project resource operation) resource) h
  refine ⟨blocks, hblocks, records_of_measured ?_⟩
  rw [hmeasured, hblocks.attempts, List.flatMap_assoc]

end Order

namespace CrudResource

variable {r : CrudResource S K} {direction : Direction} {context : PassContext} {object : K}
  {c : Cancellation}

theorem unmeasured_protocolUnder {m m' : Middleware r.Steps}
    (h : ∀ s : r.Step, (m.around r.name s.operation s.ask).interpret
      (Engine.muting Report.isMeasured) = m'.around r.name s.operation s.ask) :
    (r.protocolUnder m direction context object c).unmeasured =
      r.protocolUnder m' direction context object c := by
  have hensure : ((r.through fun s => m.around r.name s.operation s.ask).toResource.ensure
      direction context object).interpret (Engine.muting Report.isMeasured) = _ :=
    interpret_ensure direction
  rw [funext h] at hensure
  exact congrArg (Action.run · c) hensure

theorem unmeasured_wrap {m m' : Middleware S}
    (h : ∀ s : r.Step, (m.around r.name s.operation (r.perform context object s)).interpret
        (Engine.muting Report.isMeasured) =
      (m'.around r.name s.operation (r.perform context object s)).interpret
        (Engine.muting Report.isMeasured)) :
    (((r.wrap m).toResource.ensure direction context object).run c).unmeasured =
      (((r.wrap m').toResource.ensure direction context object).run c).unmeasured := by
  rw [ensure_wrap, ensure_wrap]
  exact congrArg (Action.run · c) (interpret_congr h)

theorem composes (r : CrudResource S K) (policy : RetryPolicy) (project : String)
    (direction : Direction) (context : PassContext) (object : K) (c : Cancellation) :
    Composes policy project r.name Step.operation
      (((r.wrap (.retrying policy)).toResource.ensure direction context object).run c)
      ((((r.wrap (.retrying policy)).wrap (.measuring project)).toResource.ensure direction
        context object).run c)
      ((((r.wrap (.measuring project)).wrap (.retrying policy)).toResource.ensure direction
        context object).run c)
      (r.protocol direction context object c)
      (fun m => r.protocolUnder m direction context object c)
      (r.performing context object) where
  retried_run := run_wrap (Middleware.uniform_retrying policy)
  outside_run := by
    rw [wrap_wrap]
    exact run_wrap (Middleware.uniform_measuringOutside policy project)
  inside_run := by
    rw [wrap_wrap]
    exact run_wrap (Middleware.uniform_measuringInside policy project)
  outside_alike := by
    rw [wrap_wrap]
    exact unmeasured_wrap fun s => unmeasured_outside policy project r.name s.operation _
  inside_alike := by
    rw [wrap_wrap]
    exact unmeasured_wrap fun s => unmeasured_inside policy project r.name s.operation _
  outside_muted := unmeasured_protocolUnder fun s =>
    (unmeasured_outside policy project r.name _ _).trans (unmeasured_retried policy r.name _ s)
  inside_muted := unmeasured_protocolUnder fun s =>
    (unmeasured_inside policy project r.name _ _).trans (unmeasured_retried policy r.name _ s)
  outside_records _ _ := records_outside (fun _ _ => protocol_steps) fun m => protocolUnder_eq m
  inside_records _ _ := records_inside (fun _ _ => protocol_steps) fun m => protocolUnder_eq m

end CrudResource

namespace Resource

variable {r : Resource S K} {direction : Direction} {context : PassContext} {object : K}
  {c : Cancellation}

theorem protocol_steps {log : Transcript (Asking fun _ : Direction => Unit)}
    {x : Except Error Unit × Cancellation}
    (h : (r.protocol direction context object c).Ends log x) :
    ∃ steps : List (Taken fun _ : Direction => Unit), log = steps.map Taken.entry := by
  rw [protocol, ensure_outline] at h
  exact ⟨[⟨direction, c, x.1, x.2⟩], Engine.ends_call h⟩

theorem composes (r : Resource S K) (policy : RetryPolicy) (project : String)
    (direction : Direction) (context : PassContext) (object : K) (c : Cancellation) :
    Composes policy project r.name Direction.operation
      (((r.wrap (.retrying policy)).ensure direction context object).run c)
      ((((r.wrap (.retrying policy)).wrap (.measuring project)).ensure direction context
        object).run c)
      ((((r.wrap (.measuring project)).wrap (.retrying policy)).ensure direction context
        object).run c)
      (r.protocol direction context object c)
      (fun m => r.protocolUnder m direction context object c)
      (Asking.filling fun d => r.ensure d context object) where
  retried_run := run_wrap (Middleware.uniform_retrying policy)
  outside_run := run_wrap (Middleware.uniform_measuringOutside policy project)
  inside_run := run_wrap (Middleware.uniform_measuringInside policy project)
  outside_alike := by
    rw [wrap_wrap, ensure_wrap, ensure_wrap]
    exact congrArg (Action.run · c) (unmeasured_outside ..)
  inside_alike := by
    rw [wrap_wrap, ensure_wrap, ensure_wrap]
    exact congrArg (Action.run · c) (unmeasured_inside ..)
  outside_muted := by
    rw [protocolUnder_run, protocolUnder_run]
    exact congrArg (Action.run · c) ((unmeasured_outside policy project r.name _ _).trans
      (unmeasured_retried policy r.name _ direction))
  inside_muted := by
    rw [protocolUnder_run, protocolUnder_run]
    exact congrArg (Action.run · c) ((unmeasured_inside policy project r.name _ _).trans
      (unmeasured_retried policy r.name _ direction))
  outside_records _ _ := records_outside (fun _ _ => protocol_steps) fun m => protocolUnder_eq m
  inside_records _ _ := records_inside (fun _ _ => protocol_steps) fun m => protocolUnder_eq m

end Resource

namespace ResourceSet.Builder

inductive Directive (S : Signature) (K : Type) where
  | policy (policy : RetryPolicy)
  | project (project : String)
  | crud (r : CrudResource S K)
  | resource (r : Resource S K)

namespace Directive

def apply (b : Builder S K) : Directive S K → Builder S K
  | policy p => b.setPolicy p
  | project name => b.setProject name
  | crud r => b.addCrud r
  | resource r => b.add r

def policy? : Directive S K → Option RetryPolicy
  | policy p => some p
  | _ => none

def project? : Directive S K → Option String
  | project name => some name
  | _ => none

def added? (p : RetryPolicy) (name : String) : Directive S K → Option (Resource S K)
  | crud r => some ((r.wrap (.retrying p)).wrap (.measuring name)).toResource
  | resource r => some ((r.wrap (.retrying p)).wrap (.measuring name))
  | policy _ | project _ => none

def histories (earlier : List (Directive S K)) :
    List (Directive S K) → List (List (Directive S K) × Directive S K)
  | [] => []
  | x :: rest => (earlier, x) :: histories (earlier ++ [x]) rest

end Directive

def after (directives : List (Directive S K)) : Builder S K := directives.foldl Directive.apply new

def latestPolicy (directives : List (Directive S K)) : RetryPolicy :=
  (directives.filterMap Directive.policy?).getLast?.getD .standard

def latestProject (directives : List (Directive S K)) : String :=
  (directives.filterMap Directive.project?).getLast?.getD defaultProject

theorem after_snoc (directives : List (Directive S K)) (x : Directive S K) :
    after (directives ++ [x]) = x.apply (after directives) := by
  simp [after]

theorem latestPolicy_snoc (directives : List (Directive S K)) (x : Directive S K) :
    latestPolicy (directives ++ [x]) = x.policy?.getD (latestPolicy directives) := by
  cases x <;> simp [latestPolicy, Directive.policy?]

theorem latestProject_snoc (directives : List (Directive S K)) (x : Directive S K) :
    latestProject (directives ++ [x]) = x.project?.getD (latestProject directives) := by
  cases x <;> simp [latestProject, Directive.project?]

theorem settings_after (directives : List (Directive S K)) :
    (after directives).policy = latestPolicy directives ∧
      (after directives).project = latestProject directives := by
  induction directives using List.reverseRecOn with
  | nil => exact ⟨rfl, rfl⟩
  | append_singleton directives x ih =>
    obtain ⟨hpolicy, hproject⟩ := ih
    rw [after_snoc, latestPolicy_snoc, latestProject_snoc, ← hpolicy, ← hproject]
    cases x <;> exact ⟨rfl, rfl⟩

theorem resources_snoc (directives : List (Directive S K)) (x : Directive S K) :
    (after (directives ++ [x])).resources = (after directives).resources ++
      (x.added? (latestPolicy directives) (latestProject directives)).toList := by
  obtain ⟨hpolicy, hproject⟩ := settings_after directives
  rw [after_snoc, ← hpolicy, ← hproject]
  cases x <;> simp [Directive.apply, Directive.added?, setPolicy, setProject, addCrud, add]

/-- Every resource has the settings that were the latest when it was added, and they are
in the order in which they were added. -/
theorem resources_after (earlier directives : List (Directive S K)) :
    (after (earlier ++ directives)).resources = (after earlier).resources ++
      (Directive.histories earlier directives).filterMap fun h =>
        h.2.added? (latestPolicy h.1) (latestProject h.1) := by
  -- what was said earlier grows along with the builder
  induction directives generalizing earlier with
  | nil => simp [Directive.histories]
  | cons x directives ih =>
    rw [List.append_cons, ih, resources_snoc, List.append_assoc, Directive.histories,
      List.filterMap_cons]
    cases x <;> rfl

theorem build_after (directives : List (Directive S K)) (handles : K → Bool)
    (start : K → Action S PassContext) (hne : (after directives).resources ≠ []) :
    (after directives).build handles start =
      .ok ⟨handles, start, (after directives).resources, hne⟩ := dif_pos hne

end ResourceSet.Builder

open ResourceSet.Builder

/-- In any order the two middlewares let results, cancellations and calls be as they are
under retrying alone. A builder puts measuring on the outside, with the settings made
last. -/
theorem middlewares_compose (policy : RetryPolicy) (project : String) (direction : Direction)
    (context : PassContext) (object : K) (c : Cancellation) :
    (∀ r : CrudResource S K, Composes policy project r.name CrudResource.Step.operation
      (((r.wrap (.retrying policy)).toResource.ensure direction context object).run c)
      ((((r.wrap (.retrying policy)).wrap (.measuring project)).toResource.ensure direction
        context object).run c)
      ((((r.wrap (.measuring project)).wrap (.retrying policy)).toResource.ensure direction
        context object).run c)
      (r.protocol direction context object c)
      (fun m => r.protocolUnder m direction context object c)
      (r.performing context object)) ∧
    (∀ r : Resource S K, Composes policy project r.name Direction.operation
      (((r.wrap (.retrying policy)).ensure direction context object).run c)
      ((((r.wrap (.retrying policy)).wrap (.measuring project)).ensure direction context
        object).run c)
      ((((r.wrap (.measuring project)).wrap (.retrying policy)).ensure direction context
        object).run c)
      (r.protocol direction context object c)
      (fun m => r.protocolUnder m direction context object c)
      (Asking.filling fun d => r.ensure d context object)) ∧
    ∀ directives : List (Directive S K),
      (after directives).resources = (Directive.histories [] directives).filterMap (fun h =>
        h.2.added? (latestPolicy h.1) (latestProject h.1)) ∧
      ∀ handles start (hne : (after directives).resources ≠ []),
        (after directives).build handles start =
          .ok ⟨handles, start, (after directives).resources, hne⟩ :=
  ⟨fun r => r.composes policy project direction context object c,
    fun r => r.composes policy project direction context object c,
    fun directives => ⟨resources_after [] directives, build_after directives⟩⟩

namespace CrudResource

open Operation

def unsteadyMeasured : Transcript unsteady.Steps :=
  let measured (o : Operation) : Entry (Engine unsteady.Steps) :=
    .reported (.measured (.duration ⟨"unsteady", o, "trial"⟩ true))
  [unsteadyStep .currentState .none () .none, measured getCurrentState,
   unsteadyStep .desiredState .none () .none, measured getDesiredState,
   unsteadyStep (.createPatch () ()) .none Patch.empty .none, measured newCreatePatch,
   unsteadyStep (.updatePatch () ()) .none (Patch.ofUpdate ()) .none,
   measured newUpdatePatch] ++ (unsteadyUpdate ++ [measured applyUpdateChange])

theorem unsteadyMeasured_ends :
    (unsteady.protocolUnder (.measuringOutside .standard "trial") .create ⟨true⟩ Trial.cluster
      .none).Ends unsteadyMeasured (.ok (), Cancellation.cancelResource .none) :=
  .request (.request (.request (.request (.request (.request (.request (.request (.request
    (.request (.request (.request (.request (.request (.request (.request (.pure _))))))))))))))))

theorem middlewares_compose_unsteady :
    (∃ blocks, InBlocks .standard Step.operation
        (unsteady.protocol .create ⟨true⟩ Trial.cluster .none) unsteadyMeasured
        (.ok (), Cancellation.cancelResource .none) blocks ∧
      Records "unsteady" "trial" Step.operation unsteadyMeasured (blocks.map Block.toTaken)) ∧
    (after [.project "trial", .crud unsteady]).build (fun _ => true) (fun _ => pure ⟨true⟩) =
      .ok ⟨fun _ => true, fun _ => pure ⟨true⟩,
        [((unsteady.wrap (.retrying .standard)).wrap (.measuring "trial")).toResource],
        List.cons_ne_nil _ _⟩ :=
  have h := middlewares_compose (S := Cloud) .standard "trial" .create ⟨true⟩ Trial.cluster .none
  ⟨(h.1 unsteady).outside_records _ _ unsteadyMeasured_ends,
    (h.2.2 [.project "trial", .crud unsteady]).2 _ _ (List.cons_ne_nil _ _)⟩

end CrudResource

end ClusterKeeper
