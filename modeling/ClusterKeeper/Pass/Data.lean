import ClusterKeeper.Cloud.Call
import ClusterKeeper.Json.Basic

/-!
# Passes as data

Calls and errors of the cloud, and the errors and measurements of a pass.
-/

set_option autoImplicit false

namespace ClusterKeeper

/-! ## Cloud calls as data

A call is a list that starts with its name, which tells the accounts apart.
Errors are records with a kind. -/

namespace CloudError

def ofJson? (j : Json) : Option CloudError :=
  match j.textAt "kind" with
  | "NotFound" => some (.notFound (j.textAt "resource"))
  | "AlreadyExists" => some (.alreadyExists (j.textAt "resource"))
  | "NoUpdatesToPerform" => some (.noUpdatesToPerform (j.textAt "resource"))
  | "IncorrectState" => some (.incorrectState (j.textAt "resource") (j.textAt "message"))
  | "Throttled" => some .throttled
  | "Api" => some (.api (j.textAt "service") (j.textAt "message"))
  | _ => none

def toJson (e : CloudError) : Json :=
  .object [("error", .string e.kind), ("message", .string e.message)]

end CloudError

def VolumeKind.ofJson? (j : Json) : Option VolumeKind :=
  match j.textAt? "etcd" with
  | some cluster => some (.etcd cluster)
  | none => if j.flagAt "persistent_volume" then some .persistent else none

def Attachment.ofJson? (j : Json) : Option Attachment := j.pair?.map fun (d, i) => ⟨d, i⟩

def Attachment.toJson (a : Attachment) : Json := .ofPair (a.device, a.instanceId)

namespace Volume

def ofJson (j : Json) : Volume :=
  ⟨j.textAt "id", (j.itemsAt "attachments").filterMap Attachment.ofJson?, j.textMapAt "tags"⟩

def toJson (v : Volume) : Json :=
  .array [.string v.id, .array (v.attachments.map Attachment.toJson)]

def toJsonWithTags (v : Volume) : Json :=
  .array [.string v.id, .array (v.attachments.map Attachment.toJson),
    .object (v.tags.map fun (k, value) => (k, .string value))]

end Volume

def GroupMember.toJson (m : GroupMember) : Json := .ofPair (m.instanceId, m.lifecycleState)

namespace LifecycleAction

def toJson (a : LifecycleAction) : Json := .ofTexts [a.group, a.instanceId, a.hook, a.result]

def ofJson? : Json → Option LifecycleAction
  | .array [.string group, .string id, .string hook, .string result] =>
    some ⟨group, id, hook, result⟩
  | _ => none

end LifecycleAction

namespace Cloud.Call

def arguments : Cloud.Call → List Json
  | .guestClients s | .describeStack _ s | .deleteStack _ s | .waitUntilInstanceStopped s
  | .waitUntilVolumeAvailable s | .deleteVolume s | .describeGroup s | .headBucket s
  | .createBucket s | .listObjects s | .deleteBucket s | .currentKey s | .desiredKey s
  | .createKey s | .deleteKey s => [.string s]
  | .accountId => []
  | .createStack _ name body tags => [.string name, .string body, .array (tags.map .ofPair)]
  | .updateStack _ name body => [.string name, .string body]
  | .describeVolumes conditions =>
    conditions.map fun c => .array [.string c.name, .ofTexts c.values]
  | .stopInstance id force => [.string id, .bool force]
  | .detachVolume volume a force =>
    [.string volume, .string a.instanceId, .string a.device, .bool force]
  | .completeLifecycleAction a =>
    [.string a.instanceId, .string a.group, .string a.hook, .string a.result]
  | .deleteObjects bucket keys => [.string bucket, .ofTexts keys]
  | .renderTemplate account _ state => [.string account, .string state.name]

def toJson (c : Cloud.Call) : Json := .array (.string c.fullName :: c.arguments)

end Cloud.Call

/-! ## Errors and measurements as data

An error is written with its category, its text and the text of what is
underneath; it is read by its category and the parts of its text. -/

namespace Error

def ofJson? (j : Json) : Option Error :=
  match j.textAt "kind" with
  | "InvalidConfig" => some (.invalidConfig (j.textAt "reason"))
  | "InvalidVersion" => some (.invalidVersion (j.textAt "version"))
  | "NotFound" => some (.notFound (j.textAt "what"))
  | "DeletionMustBeRetried" => some (.deletionMustBeRetried (j.textAt "what"))
  | "StackNotFound" => some (.stackNotFound (j.textAt "stack_name"))
  | "OutputsNotAccessible" =>
    some (.outputsNotAccessible (j.textAt "stack_name") (j.textAt "status"))
  | "RenderTemplate" => some (.renderTemplate (j.textAt "stack_name") (j.textAt "source"))
  | "ExecutionFailed" =>
    (CloudError.ofJson? (j.field "source")).map (.executionFailed (j.textAt "action"))
  | _ => none

def toFields (e : Error) : List (String × Json) :=
  [("error", .string e.category), ("message", .string e.message),
   ("source", .ofOption .string e.source?)]

def toJson (e : Error) : Json := .object e.toFields

end Error

def MetricLabels.toFields (l : MetricLabels) : List (String × Json) :=
  [("resource", .string l.resource), ("operation", .string l.operation.text),
   ("project", .string l.project)]

namespace Measurement

def name : Measurement → String
  | .failure _ _ => "resource_operation_errors"
  | .duration _ _ => "resource_operation_duration"

def labels : Measurement → List (String × Json)
  | .failure labels category => labels.toFields ++ [("category", .string category)]
  | .duration labels succeeded =>
    labels.toFields ++ [("outcome", .string (if succeeded then "success" else "failure"))]

def toJson (m : Measurement) : Json :=
  .object ([("metric", .string m.name), ("labels", .object m.labels)] ++
    match m with
    | .failure _ _ => [("value", .integer 1)]
    | .duration _ _ => [])

end Measurement

end ClusterKeeper
