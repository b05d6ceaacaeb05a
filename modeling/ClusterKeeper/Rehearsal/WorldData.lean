import ClusterKeeper.Pass.Data
import ClusterKeeper.Rehearsal.World

/-!
# Worlds as data

A world is described by the changes that make it out of an empty one, and
shown by what is left in it.
-/

set_option autoImplicit false

namespace ClusterKeeper

def Account.ofJson (j : Json) : Account := if j.flagAt "host" then .host else .guest

def Stack.ofJson? (j : Json) : Option (String × Stack) := do
  let name := j.textAt "name"
  let status ← StackStatus.ofText? (j.textAt "status")
  some (name, ⟨(j.textAt? "reported_name").getD name, status, j.pairsAt "outputs"⟩)

def Stack.toJson (s : Stack) : Json :=
  .array [.string s.name, .string s.status.text, .array (s.outputs.map .ofPair)]

namespace Rehearsal

def Failure.ofJson? (j : Json) : Option Failure :=
  (CloudError.ofJson? (j.field "error")).map fun e =>
    ⟨j.textAt "call", j.textAt? "arg", e, (j.natAt? "skip").getD 0, j.natAt? "times"⟩

namespace World

def empty (accountId : String) : World := ⟨accountId, .empty, none, [], [], []⟩

def mapStores (w : World) (f : Memory.Stores → Memory.Stores) : World :=
  { w with stores := f w.stores }

def addInstance (j : Json) (s : Memory.Stores) : Memory.Stores :=
  let group := j.textAt "group"
  match j.textAt? "id" with
  | some id => s.insertMember group ⟨id, j.textAt "state"⟩
  | none => { s with groups := s.groups.insert group (s.groups[group]?.getD []) }

def change? (kind : String) (j : Json) (w : World) : Option World :=
  match kind with
  | "put_stack" =>
    (Stack.ofJson? j).map fun (name, stack) =>
      w.mapStores (·.insertStack (Account.ofJson j) name stack)
  | "remove_stack" => some (w.mapStores (·.removeStack (Account.ofJson j) (j.textAt "name")))
  | "put_key" =>
    some (w.mapStores fun s => { s with keys := s.keys.insert (j.textAt "cluster_id") })
  | "put_bucket" =>
    some (w.mapStores fun s =>
      { s with buckets := s.buckets.insert (j.textAt "name") (j.textsAt "objects") })
  | "add_volume" =>
    some (w.mapStores fun s => { s with volumes := s.volumes ++ [Volume.ofJson j] })
  | "add_instance" => some (w.mapStores (addInstance j))
  | "fail" => (Failure.ofJson? j).map fun f => { w with failures := w.failures ++ [f] }
  | "clear_failures" => some { w with failures := [] }
  | "renderer" => some { w with renderError := j.textAt? "render_error" }
  | _ => none

def parts : List (String × String) :=
  [("stacks", "put_stack"), ("volumes", "add_volume"), ("instances", "add_instance"),
   ("buckets", "put_bucket"), ("failures", "fail")]

def ofJson? (j : Json) : Option World :=
  let w := empty ((j.textAt? "account_id").getD defaultAccountId)
  let w := { w with
    renderError := j.textAt? "render_error"
    stores := { w.stores with
      keys := (j.textsAt "keys").foldl (fun keys key => keys.insert key) ∅ } }
  parts.foldlM (fun w (name, kind) =>
    (j.itemsAt name).foldlM (fun w item => w.change? kind item) w) w

def statuses (s : Memory.StackStore) : Json :=
  .object (s.present.toList.map fun (name, stack) => (name, .string stack.status.text))

def toJson (w : World) : Json :=
  let s := w.stores
  .object [
    ("guest_stacks", statuses s.guest),
    ("host_stacks", statuses s.host),
    ("volumes", .array (s.volumes.map Volume.toJson)),
    ("groups", .object (s.groups.toList.map fun (name, members) =>
      (name, .array (members.map GroupMember.toJson)))),
    ("buckets", .object (s.buckets.toList.map fun (name, objects) =>
      (name, .ofTexts objects))),
    ("keys", .ofTexts s.keys.toList)]

end World

end Rehearsal

end ClusterKeeper
