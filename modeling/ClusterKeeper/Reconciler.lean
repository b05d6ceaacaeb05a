import ClusterKeeper.Resource

/-!
# Reconcilers

Sets of resources, the choice of a set for an object, and the passes over it.
-/

set_option autoImplicit false

namespace ClusterKeeper

/-! ## Resource sets

The resources that one version of an object is made of, in the order in which
they run, with the test for that version and the way to start a pass. A set
has at least one resource. -/

structure ResourceSet (S : Signature) (K : Type) where
  handles : K → Bool
  start : K → Action S PassContext
  resources : List (Resource S K)
  nonempty : resources ≠ []

namespace ResourceSet

variable {S : Signature} {K : Type}

def ofList (handles : K → Bool) (start : K → Action S PassContext)
    (resources : List (Resource S K)) : Except Error (ResourceSet S K) :=
  if h : resources ≠ [] then .ok ⟨handles, start, resources, h⟩
  else .error (.invalidConfig "a resource set needs at least one resource")

def handlesVersion [Managed K] (version : String) (object : K) : Bool :=
  Managed.version object = version

/-- Collects resources and puts retrying and measuring around each. Policy and
project apply to the resources added after they were set. -/
structure Builder (S : Signature) (K : Type) where
  policy : RetryPolicy
  project : String
  resources : List (Resource S K)

namespace Builder

def defaultProject : String := "aws-operator"

def new : Builder S K := ⟨RetryPolicy.standard, defaultProject, []⟩

def setPolicy (b : Builder S K) (policy : RetryPolicy) : Builder S K :=
  { b with policy := policy }

def setProject (b : Builder S K) (project : String) : Builder S K :=
  { b with project := project }

def addCrud (b : Builder S K) (r : CrudResource S K) : Builder S K :=
  let wrapped := (r.wrap (.retrying b.policy)).wrap (.measuring b.project)
  { b with resources := b.resources ++ [wrapped.toResource] }

def add (b : Builder S K) (r : Resource S K) : Builder S K :=
  let wrapped := (r.wrap (.retrying b.policy)).wrap (.measuring b.project)
  { b with resources := b.resources ++ [wrapped] }

def build (b : Builder S K) (handles : K → Bool) (start : K → Action S PassContext) :
    Except Error (ResourceSet S K) :=
  ofList handles start b.resources

end Builder

end ResourceSet

/-! ## Routing

Exactly one resource set has to claim an object. -/

structure Router (S : Signature) (K : Type) where
  sets : List (ResourceSet S K)
  nonempty : sets ≠ []

namespace Router

variable {S : Signature} {K : Type}

def ofList (sets : List (ResourceSet S K)) : Except Error (Router S K) :=
  if h : sets ≠ [] then .ok ⟨sets, h⟩
  else .error (.invalidConfig "a router needs at least one resource set")

def ambiguous (count : Nat) (version : String) : Error :=
  .invalidConfig s!"{count} resource sets handle version bundle version {Text.quoted version}"

def route [Managed K] (r : Router S K) (object : K) : Except Error (ResourceSet S K) :=
  match r.sets.filter (·.handles object) with
  | [] => .error (.invalidVersion (Managed.version object))
  | [set] => .ok set
  | sets => .error (ambiguous sets.length (Managed.version object))

end Router

/-! ## Passes

A pass runs the resources of an object in order. It ends at the first one that
fails, with that error, or at the first one after which the pass is canceled.
Nothing is kept from one pass to the next. -/

variable {S : Signature} {K : Type}

def runResources (direction : Direction) (context : PassContext) (object : K) :
    List (Resource S K) → Action S Unit
  | [] => pure ()
  | r :: rest => do
    modify Cancellation.resetResource
    r.ensure direction context object
    if (← get).pass then pure () else runResources direction context object rest

structure Reconciler (S : Signature) (K : Type) where
  router : Router S K

namespace Reconciler

def summary (_ : Reconciler S K) : String := "Reconciler \x7b .. \x7d"

variable [Managed K]

def pass (r : Reconciler S K) (direction : Direction) (object : K) : Action S Unit := do
  let set ← r.router.route object
  let context ← set.start object
  runResources direction context object set.resources

def ensure (r : Reconciler S K) (direction : Direction) (object : K) :
    Program (Engine S) (Except Error Unit) := do
  let (result, _) ← (r.pass direction object).run Cancellation.none
  pure result

def reconcile (r : Reconciler S K) (object : K) : Program (Engine S) (Except Error Unit) :=
  r.ensure (.of object) object

end Reconciler

end ClusterKeeper
