import ClusterKeeper.Pass.Action
import ClusterKeeper.Retry.Loop

/-!
# Resources

A resource is one step of a pass over an object: it makes sure that something
exists in the cloud, or that it is gone.
-/

set_option autoImplicit false

namespace ClusterKeeper

class Managed (K : Type) where
  version : K → String
  isBeingDeleted : K → Bool

inductive Direction where
  | create
  | delete
  deriving DecidableEq, Repr

def Direction.of {K : Type} [Managed K] (object : K) : Direction :=
  if Managed.isBeingDeleted object then .delete else .create

structure Resource (S : Signature) (K : Type) where
  name : String
  ensureCreated : PassContext → K → Action S Unit
  ensureDeleted : PassContext → K → Action S Unit

def Resource.ensure {S : Signature} {K : Type} (r : Resource S K) :
    Direction → PassContext → K → Action S Unit
  | .create => r.ensureCreated
  | .delete => r.ensureDeleted

/-! ## Resources that compare states

Such a resource observes the current state, computes the desired one, makes a
patch out of the difference and applies its changes. Only applying a change
mutates anything. Between any two changes, and between the two patches of a
creation, a cancellation ends the resource without an error. -/

structure Patch (C U D : Type) where
  create : Option C
  update : Option U
  delete : Option D
  deriving DecidableEq, Repr

namespace Patch

variable {C U D : Type}

def empty : Patch C U D := ⟨none, none, none⟩

def ofCreate (change : C) : Patch C U D := ⟨some change, none, none⟩

def ofUpdate (change : U) : Patch C U D := ⟨none, some change, none⟩

def ofDelete (change : D) : Patch C U D := ⟨none, none, some change⟩

def isEmpty (p : Patch C U D) : Bool := p.create.isNone && p.update.isNone && p.delete.isNone

end Patch

structure CrudResource (S : Signature) (K : Type) where
  State : Type
  CreateChange : Type
  UpdateChange : Type
  DeleteChange : Type
  name : String
  currentState : PassContext → K → Action S State
  desiredState : PassContext → K → Action S State
  createPatch : PassContext → K → State → State →
    Action S (Patch CreateChange UpdateChange DeleteChange)
  updatePatch : PassContext → K → State → State →
    Action S (Patch CreateChange UpdateChange DeleteChange)
  deletePatch : PassContext → K → State → State →
    Action S (Patch CreateChange UpdateChange DeleteChange)
  applyCreate : PassContext → K → CreateChange → Action S Unit
  applyUpdate : PassContext → K → UpdateChange → Action S Unit
  applyDelete : PassContext → K → DeleteChange → Action S Unit

namespace CrudResource

variable {S : Signature} {K : Type}

abbrev Patch (r : CrudResource S K) : Type :=
  ClusterKeeper.Patch r.CreateChange r.UpdateChange r.DeleteChange

def applyIfPresent {α : Type} (change : Option α) (apply : α → Action S Unit)
    (rest : Action S Unit) : Action S Unit :=
  match change with
  | none => rest
  | some c => do
    apply c
    Action.unlessCanceled rest

def applyPatch (r : CrudResource S K) (context : PassContext) (object : K) (p : r.Patch) :
    Action S Unit :=
  applyIfPresent p.create (r.applyCreate context object) <|
  applyIfPresent p.delete (r.applyDelete context object) <|
  match p.update with
  | none => pure ()
  | some change => r.applyUpdate context object change

def withStates (r : CrudResource S K) (context : PassContext) (object : K)
    (rest : r.State → r.State → Action S Unit) : Action S Unit := do
  let current ← r.currentState context object
  Action.unlessCanceled do
    let desired ← r.desiredState context object
    Action.unlessCanceled (rest current desired)

def toResource (r : CrudResource S K) : Resource S K where
  name := r.name
  ensureCreated context object := r.withStates context object fun current desired => do
    let p ← r.createPatch context object current desired
    r.applyPatch context object p
    Action.unlessCanceled do
      let p ← r.updatePatch context object current desired
      r.applyPatch context object p
  ensureDeleted context object := r.withStates context object fun current desired => do
    let p ← r.deletePatch context object current desired
    r.applyPatch context object p

end CrudResource

/-! ## Middleware

A middleware goes around every operation of a resource and keeps its name.
Retrying repeats the operations that mutate; measuring records how each
operation ended. -/

variable {S : Signature} {K : Type}

structure Middleware (S : Signature) where
  around : (resource : String) → Operation → {α : Type} → Action S α → Action S α

namespace Middleware

def retrying (policy : RetryPolicy) : Middleware S where
  around _ operation _ action :=
    if operation.mutates then Action.ofRun (policy.retryWith action.run) else action

def measurements (labels : MetricLabels) {α : Type} : Except Error α → List Measurement
  | .ok _ => [.duration labels true]
  | .error e => [.failure labels e.category, .duration labels false]

def measuring (project : String) : Middleware S where
  around resource operation _ action := Action.ofRun fun c => do
    let (result, c) ← action.run c
    (measurements ⟨resource, operation, project⟩ result).forM fun m =>
      Engine.report (.measured m)
    pure (result, c)

end Middleware

def Resource.wrap (r : Resource S K) (m : Middleware S) : Resource S K where
  name := r.name
  ensureCreated context object :=
    m.around r.name .ensureCreated (r.ensureCreated context object)
  ensureDeleted context object :=
    m.around r.name .ensureDeleted (r.ensureDeleted context object)

def CrudResource.wrap (r : CrudResource S K) (m : Middleware S) : CrudResource S K where
  State := r.State
  CreateChange := r.CreateChange
  UpdateChange := r.UpdateChange
  DeleteChange := r.DeleteChange
  name := r.name
  currentState context object :=
    m.around r.name .getCurrentState (r.currentState context object)
  desiredState context object :=
    m.around r.name .getDesiredState (r.desiredState context object)
  createPatch context object current desired :=
    m.around r.name .newCreatePatch (r.createPatch context object current desired)
  updatePatch context object current desired :=
    m.around r.name .newUpdatePatch (r.updatePatch context object current desired)
  deletePatch context object current desired :=
    m.around r.name .newDeletePatch (r.deletePatch context object current desired)
  applyCreate context object change :=
    m.around r.name .applyCreateChange (r.applyCreate context object change)
  applyUpdate context object change :=
    m.around r.name .applyUpdateChange (r.applyUpdate context object change)
  applyDelete context object change :=
    m.around r.name .applyDeleteChange (r.applyDelete context object change)

end ClusterKeeper
