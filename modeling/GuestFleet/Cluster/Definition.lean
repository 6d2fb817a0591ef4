import GuestFleet.Cluster.Reading
import GuestFleet.Json.MergePatch
import GuestFleet.Yaml.Document

/-!
# The definition of clusters

The manifest that makes clusters known to an API server: their names, the columns to
list them with, and the schema of their members.
-/

namespace GuestFleet.Cluster.Definition

/-- A schema of a type, with the members that say more about it. -/
def schema (type description : String) (more : List (String × Json)) : Json :=
  .ofMembers (("description", .string description) :: ("type", .string type) :: more)

/-- The schema of a text. -/
def text (description : String) (more : List (String × Json)) : Json :=
  schema "string" description more

/-- The schema of a text that may be null. -/
def optionalText (description : String) : Json := text description [("nullable", .bool true)]

/-- The schema of an object with some members, of which some must be present. -/
def record (description : String) (properties : List (String × Json)) (required : List String)
    (more : List (String × Json)) : Json :=
  schema "object" description
    (("properties", .ofMembers properties) ::
      (if required.isEmpty then [] else [("required", Json.ofStrings required)]) ++ more)

/-- The number 1. -/
def one : Json := .real ⟨0x3ff0000000000000⟩

/-- The number 64. -/
def sixtyFour : Json := .real ⟨0x4050000000000000⟩

/-- The schema of a node. -/
def node : Json :=
  record "A single guest node and the capabilities of its virtual machine"
    [("id", text "Node id, unique within the cluster" []),
      ("cpus", schema "integer" "Virtual CPUs"
        [("default", .integer 2), ("format", .string "int32"), ("minimum", one),
          ("maximum", sixtyFour)]),
      ("memory", text "Virtual machine memory" [("default", .string "2G")]),
      ("disk", text "Root disk size" [("default", .string "20G")])]
    ["id"] []

/-- The schema of a list of nodes. -/
def nodes (description : String) (more : List (String × Json)) : Json :=
  schema "array" description (("items", node) :: more)

/-- The schema of the topology. -/
def topology : Json :=
  record "Guest cluster topology"
    [("id", text "Cluster id, also the name of the cluster namespace" []),
      ("customerId", text "Customer owning the cluster"
        [("minLength", .integer 1), ("maxLength", .integer 63)]),
      ("masters", nodes "Master nodes (at least one)" [("minItems", .integer 1)]),
      ("workers", nodes "Worker nodes" [("default", .array [])]),
      ("ingressDomain", optionalText
        "Base domain of the guest API and etcd ingresses, overrides the operator default")]
    ["customerId", "id", "masters"] []

/-- The schema of the version bundle. -/
def versionBundle : Json :=
  record "Version bundle selecting the resource set used to reconcile this cluster"
    [("version", text "`<major>.<minor>.<patch>`, empty for the legacy resource set"
      [("default", .string "")])]
    [] [("default", .object [("version", .string "")])]

/-- The schema of what a cluster asks for. -/
def spec : Json :=
  record ("KvmCluster custom resource definition\n\nThe operator derives a namespace plus the " ++
      "per node deployments, config maps, services, ingresses and volumes of the guest " ++
      "cluster from it.")
    [("cluster", topology), ("versionBundle", versionBundle)] ["cluster"] []

/-- The schema of what was achieved for a cluster. -/
def status : Json :=
  record "Status of a KvmCluster resource"
    [("observedGeneration", schema "integer" "Current observed generation"
        [("format", .string "int64")]),
      ("appliedVersionBundle", optionalText "Version bundle of the last successful reconciliation"),
      ("lastReconciled", optionalText "Last time the cluster was reconciled")]
    ["observedGeneration"] [("nullable", .bool true)]

/-- The schema of a cluster. -/
def cluster : Json :=
  record "Auto-generated derived type for KvmClusterSpec via `CustomResource`"
    [("spec", spec), ("status", status)] ["spec"] [("title", .string Cluster.kindName)]

/-- A column of a list of clusters. -/
def column (name type path : String) : Json :=
  .ofMembers [("name", .string name), ("type", .string type), ("jsonPath", .string path)]

/-- The version of the definition that is served and stored. -/
def version : Json :=
  .ofMembers
    [("name", .string "v1alpha1"), ("served", .bool true), ("storage", .bool true),
      ("subresources", .object [("status", .object [])]),
      ("additionalPrinterColumns", .array
        [column "Cluster" "string" ".spec.cluster.id",
          column "Version" "string" ".spec.versionBundle.version",
          column "Age" "date" ".metadata.creationTimestamp"]),
      ("schema", .object [("openAPIV3Schema", cluster)])]

/-- The names of clusters in the API. -/
def names : Json :=
  .ofMembers
    [("kind", .string Cluster.kindName), ("plural", .string "kvmclusters"),
      ("singular", .string "kvmcluster"), ("shortNames", Json.ofStrings ["kvm"]),
      ("categories", .array [])]

/-- The definition as a JSON value. -/
def value : Json :=
  .ofMembers
    [("apiVersion", .string "apiextensions.k8s.io/v1"),
      ("kind", .string "CustomResourceDefinition"),
      ("metadata", .object [("name", .string "kvmclusters.provider.giantswarm.io")]),
      ("spec", .ofMembers
        [("group", .string "provider.giantswarm.io"), ("names", names),
          ("scope", .string "Namespaced"), ("versions", .array [version])])]

/-- The definition as a YAML document. -/
def document : String := Yaml.document (Yaml.Node.ofMembers value.membersOf)

end GuestFleet.Cluster.Definition
