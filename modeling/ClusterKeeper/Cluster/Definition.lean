import ClusterKeeper.Cluster.Basic
import ClusterKeeper.Yaml.Basic

/-!
# The definition of clusters

Schemas of values, and the one of a cluster in its definition.
-/

set_option autoImplicit false

namespace ClusterKeeper

/-! ## Schemas

The shape of the records that describe clusters, as it is published: which
fields there are, of which kind, and which of them have to be given. -/

inductive Schema where
  | text
  | flag (standard : Bool)
  | count
  | record (fields : List (String × Option String × Schema))

namespace Schema

open Yaml (Node)

def object (fields : List (String × Node)) : Node :=
  .mapping (fields.map fun (key, value) => (.plain key, value))

def isRequired : Schema → Bool
  | flag _ => false
  | _ => true

def truth (b : Bool) : Node := .plain (if b then "true" else "false")

def describe (description : Option String) : List (String × Node) :=
  description.toList.map fun d => ("description", .plain d)

def requiredNames (fields : List (String × Option String × Schema)) : List Node :=
  (fields.filter fun (_, _, s) => s.isRequired).map fun (name, _, _) => .plain name

mutual

def toNode (description : Option String) : Schema → Node
  | text => object (describe description ++ [("type", .plain "string")])
  | flag standard =>
    object (("default", truth standard) :: describe description ++ [("type", .plain "boolean")])
  | count =>
    object (describe description ++
      [("format", .plain "uint32"), ("minimum", .plain "0.0"), ("type", .plain "integer")])
  | record fields =>
    object (describe description ++
      [("properties", .mapping (properties fields)),
       ("required", .sequence (requiredNames fields)), ("type", .plain "object")])

def properties : List (String × Option String × Schema) → List (Node × Node)
  | [] => []
  | (name, description, s) :: fields => (.plain name, s.toNode description) :: properties fields

end

end Schema

/-! ## The definition

What has to be known to store clusters: their names, their version and their
schema. -/

namespace ClusterDefinition

open Schema (object truth)
open Yaml (Node)

def singular : String := "awscluster"

def plural : String := "awsclusters"

def nodeGroup : Schema :=
  .record [
    ("count", none, .count),
    ("imageId", none, .text),
    ("instanceType", none, .text),
    ("monitoring", some "Enables detailed CloudWatch monitoring for the instances.",
      .flag false)]

def spec : Schema :=
  .record [
    ("cluster", none, .record [
      ("id", some "Short unique identifier of the guest cluster, e.g. \x60a1b2c\x60.", .text)]),
    ("masters", none, nodeGroup),
    ("versionBundle", none, .record [
      ("version",
        some "Selects the reconciliation logic generation applied to the cluster.", .text)]),
    ("vpc", none, .record [("cidr", none, .text), ("peerId", none, .text)]),
    ("workers", none, nodeGroup)]

def names : Node :=
  object [
    ("categories", .sequence []),
    ("kind", .plain Cluster.kind),
    ("plural", .plain plural),
    ("shortNames", .sequence [.plain "awsc"]),
    ("singular", .plain singular)]

def schema : Node :=
  object [
    ("description", .plain
      "Auto-generated derived type for AwsClusterSpec via \x60CustomResource\x60"),
    ("properties", object [("spec", spec.toNode none)]),
    ("required", .sequence [.plain "spec"]),
    ("title", .plain Cluster.kind),
    ("type", .plain "object")]

def versionNode : Node :=
  object [
    ("additionalPrinterColumns", .sequence []),
    ("name", .plain Cluster.versionName),
    ("schema", object [("openAPIV3Schema", schema)]),
    ("served", truth true),
    ("storage", truth true),
    ("subresources", .mapping [])]

def node : Node :=
  object [
    ("apiVersion", .plain "apiextensions.k8s.io/v1"),
    ("kind", .plain "CustomResourceDefinition"),
    ("metadata", object [("name", .plain (plural ++ "." ++ Cluster.apiGroup))]),
    ("spec", object [
      ("group", .plain Cluster.apiGroup),
      ("names", names),
      ("scope", .plain "Namespaced"),
      ("versions", .sequence [versionNode])])]

def text : String := node.print

end ClusterDefinition

end ClusterKeeper
