import ClusterKeeper.Json.Basic
import ClusterKeeper.Resources.MainStack

/-!
# States of stacks as data

Every field of a state may be left out and is then as in the state of a stack
that does not exist.
-/

set_option autoImplicit false

namespace ClusterKeeper

namespace UpdateRequest

def ofJson? (j : Json) : Option UpdateRequest :=
  j.object?.map fun _ => ⟨j.textAt "stack_name", j.textAt "template_body"⟩

def toJson (r : UpdateRequest) : Json :=
  .object [("stack_name", .string r.stack), ("template_body", .string r.body)]

end UpdateRequest

namespace StackState

def ofJson (j : Json) : StackState where
  name := j.textAt "name"
  masterImageId := j.textAt "master_image_id"
  masterInstanceType := j.textAt "master_instance_type"
  masterCloudConfigVersion := j.textAt "master_cloud_config_version"
  masterInstanceResourceName := j.textAt "master_instance_resource_name"
  masterMonitoring := j.flagAt "master_monitoring"
  workerCount := j.textAt "worker_count"
  workerImageId := j.textAt "worker_image_id"
  workerInstanceType := j.textAt "worker_instance_type"
  workerCloudConfigVersion := j.textAt "worker_cloud_config_version"
  workerMonitoring := j.flagAt "worker_monitoring"
  versionBundleVersion := j.textAt "version_bundle_version"
  shouldScale := j.flagAt "should_scale"
  shouldUpdate := j.flagAt "should_update"
  updateRequest := UpdateRequest.ofJson? (j.field "update_request")

def toJson (s : StackState) : Json :=
  .object [
    ("name", .string s.name),
    ("master_image_id", .string s.masterImageId),
    ("master_instance_type", .string s.masterInstanceType),
    ("master_cloud_config_version", .string s.masterCloudConfigVersion),
    ("master_instance_resource_name", .string s.masterInstanceResourceName),
    ("master_monitoring", .bool s.masterMonitoring),
    ("worker_count", .string s.workerCount),
    ("worker_image_id", .string s.workerImageId),
    ("worker_instance_type", .string s.workerInstanceType),
    ("worker_cloud_config_version", .string s.workerCloudConfigVersion),
    ("worker_monitoring", .bool s.workerMonitoring),
    ("version_bundle_version", .string s.versionBundleVersion),
    ("should_scale", .bool s.shouldScale),
    ("should_update", .bool s.shouldUpdate),
    ("update_request", .ofOption UpdateRequest.toJson s.updateRequest)]

end StackState

namespace StackDeletion

def ofJson (j : Json) : StackDeletion :=
  ⟨j.textAt "guest_main", j.textAt "host_main", j.textAt "host_setup"⟩

def toJson (d : StackDeletion) : Json :=
  .object [("guest_main", .string d.guestMain), ("host_main", .string d.hostMain),
    ("host_setup", .string d.hostSetup)]

end StackDeletion

end ClusterKeeper
