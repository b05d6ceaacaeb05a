import ClusterKeeper.Pass.Data
import ClusterKeeper.Rehearsal.Stage
import ClusterKeeper.Retry.Policy
import ClusterKeeper.Reconciler

/-!
# Scripted resources as data

Resource sets are described by their resources, what goes around each, and
the scripts of all operations. Every start of a set and every resource is an
actor with a number of its own.
-/

set_option autoImplicit false

namespace ClusterKeeper.Rehearsal

def Scope.ofJson? : Json → Option Scope
  | .string "cancel_pass" => some .pass
  | .string "cancel_resource" => some .resource
  | _ => none

def Outcome.ofJson? : Json → Option Outcome
  | .string "ok" => some .success
  | .string s => (Scope.ofJson? (.string s)).map fun scope => ⟨some scope, none⟩
  | j => do
    let e ← Error.ofJson? (j.field "error")
    pure ⟨← Json.format.optional? Scope.ofJson? (j.field "then"), some e⟩

def Script.ofJson? (j : Json) : Option Script :=
  if j.isNull then some [] else do (← j.array?).mapM Outcome.ofJson?

def policyOf? (j : Json) : Option RetryPolicy :=
  if j.isNull then some .standard else RetryPolicy.decode Json.format j

def Scripted.patchOf? (j : Json) : Option (Patch Int Int Int) := do
  let change (name : String) := Json.format.optional? Json.integer? (j.field name)
  pure ⟨← change "create", ← change "update", ← change "delete"⟩

/-- A state that is not given is zero. One that is no integer is refused. -/
def Scripted.Comparison.ofJson? (j : Json) : Option Scripted.Comparison := do
  let number (name : String) := do
    pure ((← Json.format.optional? Json.integer? (j.field name)).getD 0)
  let patches := j.field "patches"
  pure ⟨← number "current", ← number "desired", ← patchOf? (patches.field "create"),
    ← patchOf? (patches.field "update"), ← patchOf? (patches.field "delete")⟩

structure Cast where
  scripts : List ((Nat × Cue) × Script)
  actors : Nat

namespace Cast

def empty : Cast := ⟨[], 0⟩

def add (c : Cast) (scripts : List (Cue × Script)) : Nat × Cast :=
  (c.actors, ⟨c.scripts ++ scripts.map fun (cue, script) => ((c.actors, cue), script),
    c.actors + 1⟩)

end Cast

def scriptsOf? (j : Json) : Option (List (Cue × Script)) := do
  let scripts ← Json.format.optional? Json.object? j
  (scripts.getD []).mapM fun (name, script) => do
    some (.operation (← Operation.ofText? name), ← Script.ofJson? script)

inductive Part where
  | whole (actor : Nat) (name : String)
  | comparing (actor : Nat) (name : String) (c : Scripted.Comparison)

namespace Part

def ofJson? (j : Json) (cast : Cast) : Option (Part × Cast) := do
  match j.get? "resource", j.get? "crud" with
  | some r, _ =>
    let (actor, cast) := cast.add (← scriptsOf? (r.field "on"))
    some (whole actor (r.textAt "name"), cast)
  | none, some r =>
    let (actor, cast) := cast.add (← scriptsOf? (r.field "on"))
    some (comparing actor (r.textAt "name") (← Scripted.Comparison.ofJson? r), cast)
  | none, none => none

def addTo (b : ResourceSet.Builder Scripted Item) : Part → ResourceSet.Builder Scripted Item
  | whole actor name => b.add (Scripted.resource actor name)
  | comparing actor name c => b.addCrud (Scripted.crud actor name c)

def wrapWhole? (kind : String) (retrying measuring : Middleware Scripted)
    (r : Resource Scripted Item) : Option (Resource Scripted Item) :=
  match kind with
  | "none" => some r
  | "retry" => some (r.wrap retrying)
  | "measure" => some (r.wrap measuring)
  | "measure_retry" => some ((r.wrap measuring).wrap retrying)
  | _ => none

/-- Middleware around the single operations of a resource that compares, or,
where the kind says so, around what it is made into. -/
def wrapComparing? (kind : String) (retrying measuring : Middleware Scripted)
    (r : CrudResource Scripted Item) : Option (Resource Scripted Item) :=
  match kind with
  | "none" => some r.toResource
  | "retry" => some (r.wrap retrying).toResource
  | "measure" => some (r.wrap measuring).toResource
  | "measure_retry" => some ((r.wrap measuring).wrap retrying).toResource
  | "adapter_retry" => some (r.toResource.wrap retrying)
  | "adapter_measure" => some (r.toResource.wrap measuring)
  | _ => none

def wrap? (kind : String) (retrying measuring : Middleware Scripted) :
    Part → Option (Resource Scripted Item)
  | whole actor name => wrapWhole? kind retrying measuring (Scripted.resource actor name)
  | comparing actor name c => wrapComparing? kind retrying measuring (Scripted.crud actor name c)

end Part

namespace Scripted

def build? (state : ResourceSet.Builder Scripted Item × Cast) (entry : Json) :
    Option (ResourceSet.Builder Scripted Item × Cast) := do
  let (b, cast) := state
  match entry.get? "retry_policy", entry.textAt? "project" with
  | some p, _ => some (b.setPolicy (← RetryPolicy.decode Json.format p), cast)
  | none, some project => some (b.setProject project, cast)
  | none, none =>
    let (part, cast) ← Part.ofJson? entry cast
    some (Part.addTo b part, cast)

/-- Every entry has a policy, whatever goes around its resource. A project need not be given. -/
def wrap? (state : List (Resource Scripted Item) × Cast) (entry : Json) :
    Option (List (Resource Scripted Item) × Cast) := do
  let (resources, cast) := state
  let (part, cast) ← Part.ofJson? entry cast
  let policy ← RetryPolicy.decode Json.format (← entry.get? "policy")
  let project ← Json.format.optional? Json.string? (entry.field "project")
  let r ← Part.wrap? (entry.textAt "wrap") (.retrying policy) (.measuring (project.getD "")) part
  some (resources ++ [r], cast)

def handles? : Json → Option (Item → Bool)
  | .string version => some (ResourceSet.handlesVersion version)
  | j => (j.textAt? "prefix").map fun start item => item.version.startsWith start

def set? (j : Json) (cast : Cast) :
    Option (Except Error (ResourceSet Scripted Item) × Cast) := do
  let handles ← handles? (j.field "handles")
  let (actor, cast) := cast.add [(.start, ← Script.ofJson? (j.field "init"))]
  match j.get? "wrapped" with
  | some (.array entries) => do
    let (resources, cast) ← entries.foldlM wrap? ([], cast)
    some (ResourceSet.ofList handles (startPass actor) resources, cast)
  | _ => do
    let (b, cast) ← (j.itemsAt "build").foldlM build? (.new, cast)
    some (b.build handles (startPass actor), cast)

def sets? (cast : Cast) :
    List Json → Option (Except Error (List (ResourceSet Scripted Item)) × Cast)
  | [] => some (.ok [], cast)
  | j :: rest => do
    let (set, cast) ← set? j cast
    match set with
    | .error e => some (.error e, cast)
    | .ok set =>
      let (sets, cast) ← sets? cast rest
      some (sets.map (set :: ·), cast)

end Scripted

def Line.toJson : Line → Json
  | .start => .ofTexts ["init"]
  | .operation name o arguments =>
    .array ([.string name, .string o.text] ++ arguments.map .integer)
  | .patchIsEmpty name empty => .array [.string name, .string "patch_is_empty", .bool empty]

end ClusterKeeper.Rehearsal
