import GuestFleet.Cluster.Spec

/-!
# Reading and writing clusters

The JSON form of a cluster. The type may go unnamed and is not checked; missing
capabilities of a node get their usual values.
-/

namespace GuestFleet

open Json (Read Field)

namespace Node

/-- A node whose fields are not all known yet. -/
structure Draft where
  id : Option String := none
  cpus : Int := 2
  memory : String := "2G"
  disk : String := "20G"

/-- Takes up one member of a node. -/
def readMember (draft : Draft) (key : String) (value : Json) : Read Draft :=
  match key with
  | "id" => (Json.readString value).map ({ draft with id := some · })
  | "cpus" => (Json.readInt32 value).map ({ draft with cpus := · })
  | "memory" => (Json.readString value).map ({ draft with memory := · })
  | "disk" => (Json.readString value).map ({ draft with disk := · })
  | _ => .ok draft

/-- The node, which must have an id. -/
def finish (draft : Draft) : Read Node :=
  (Json.need "id" draft.id).map fun id => ⟨id, draft.cpus, draft.memory, draft.disk⟩

/-- A node has two processors, 2G of memory and 20G of disk unless it says otherwise. -/
def read : Json -> Read Node :=
  Json.readStruct "NodeSpec" [⟨"id", false⟩, ⟨"cpus", true⟩, ⟨"memory", true⟩, ⟨"disk", true⟩]
    readMember finish {}

/-- A node with its members in key order. -/
def toJson (node : Node) : Json :=
  .object [("cpus", .integer node.cpus), ("disk", .string node.disk), ("id", .string node.id),
    ("memory", .string node.memory)]

end Node

namespace Topology

/-- A topology whose fields are not all known yet. -/
structure Draft where
  id : Option String := none
  customerId : Option String := none
  masters : Option (List Node) := none
  workers : List Node := []
  ingressDomain : Option String := none

/-- Takes up one member of a topology. -/
def readMember (draft : Draft) (key : String) (value : Json) : Read Draft :=
  match key with
  | "id" => (Json.readString value).map ({ draft with id := some · })
  | "customerId" => (Json.readString value).map ({ draft with customerId := some · })
  | "masters" => (Json.readList Node.read value).map ({ draft with masters := some · })
  | "workers" => (Json.readList Node.read value).map ({ draft with workers := · })
  | "ingressDomain" =>
    (Json.readOption Json.readString value).map ({ draft with ingressDomain := · })
  | _ => .ok draft

/-- The topology, whose first missing field is the fault. -/
def finish (draft : Draft) : Read Topology := do
  let id <- Json.need "id" draft.id
  let customerId <- Json.need "customerId" draft.customerId
  let masters <- Json.need "masters" draft.masters
  return ⟨id, customerId, masters, draft.workers, draft.ingressDomain⟩

/-- The id, the customer and the masters must be given. -/
def read : Json -> Read Topology :=
  Json.readStruct "ClusterSpec"
    [⟨"id", false⟩, ⟨"customerId", false⟩, ⟨"masters", false⟩, ⟨"workers", true⟩,
      ⟨"ingressDomain", true⟩]
    readMember finish {}

/-- A topology with its members in key order. An absent domain is not written. -/
def toJson (topology : Topology) : Json :=
  .object (
    [("customerId", .string topology.customerId), ("id", .string topology.id)] ++
    Json.optionalString "ingressDomain" topology.ingressDomain ++
    [("masters", .array (topology.masters.map Node.toJson)),
      ("workers", .array (topology.workers.map Node.toJson))])

end Topology

namespace ClusterStatus

/-- A status whose fields are not all known yet. -/
structure Draft where
  observedGeneration : Option Int := none
  appliedVersionBundle : Option String := none
  lastReconciled : Option String := none

/-- Takes up one member of a status. -/
def readMember (draft : Draft) (key : String) (value : Json) : Read Draft :=
  match key with
  | "observedGeneration" =>
    (Json.readInt64 value).map ({ draft with observedGeneration := some · })
  | "appliedVersionBundle" =>
    (Json.readOption Json.readString value).map ({ draft with appliedVersionBundle := · })
  | "lastReconciled" =>
    (Json.readOption Json.readString value).map ({ draft with lastReconciled := · })
  | _ => .ok draft

/-- The status, which must have seen a generation. -/
def finish (draft : Draft) : Read ClusterStatus :=
  (Json.need "observedGeneration" draft.observedGeneration).map fun generation =>
    ⟨generation, draft.appliedVersionBundle, draft.lastReconciled⟩

/-- The generation must be given. -/
def read : Json -> Read ClusterStatus :=
  Json.readStruct "KvmClusterStatus"
    [⟨"observedGeneration", false⟩, ⟨"appliedVersionBundle", false⟩, ⟨"lastReconciled", false⟩]
    readMember finish {}

/-- A text, or null in its absence. -/
def textOrNull (text : Option String) : Json := text.elim .null .string

/-- A status with its members in key order. What is absent is written as null. -/
def toJson (status : ClusterStatus) : Json :=
  .object [("appliedVersionBundle", textOrNull status.appliedVersionBundle),
    ("lastReconciled", textOrNull status.lastReconciled),
    ("observedGeneration", .integer status.observedGeneration)]

end ClusterStatus

namespace Cluster

/-- The text of a version bundle; an absent one is empty. -/
def readVersion : Json -> Read String :=
  Json.readStruct "VersionBundleSpec" [⟨"version", true⟩]
    (fun version key value =>
      match key with
      | "version" => Json.readString value
      | _ => .ok version)
    .ok ""

/-- What a cluster object specifies, not all known yet. -/
structure SpecDraft where
  topology : Option Topology := none
  version : String := ""

/-- Takes up one member of a specification. -/
def readSpecMember (draft : SpecDraft) (key : String) (value : Json) : Read SpecDraft :=
  match key with
  | "cluster" => (Topology.read value).map ({ draft with topology := some · })
  | "versionBundle" => (readVersion value).map ({ draft with version := · })
  | _ => .ok draft

/-- The topology and the version of a cluster. -/
def readSpec : Json -> Read (Topology × String) :=
  Json.readStruct "KvmClusterSpec" [⟨"cluster", false⟩, ⟨"versionBundle", true⟩] readSpecMember
    (fun draft => (Json.need "cluster" draft.topology).map fun t => (t, draft.version)) {}

/-- A cluster object whose parts are not all known yet. -/
structure Draft where
  metadata : Option Kube.Metadata := none
  spec : Option (Topology × String) := none
  status : Option ClusterStatus := none

/-- Takes up one member of a cluster object. -/
def readMember (draft : Draft) (key : String) (value : Json) : Read Draft :=
  match key with
  | "metadata" => (Kube.Metadata.codec.read value).map ({ draft with metadata := some · })
  | "spec" => (readSpec value).map ({ draft with spec := some · })
  | "status" => (Json.readOption ClusterStatus.read value).map ({ draft with status := · })
  | _ => .ok draft

/-- The cluster, whose first missing part is the fault. -/
def finish (draft : Draft) : Read Cluster := do
  let metadata <- Json.need "metadata" draft.metadata
  let spec <- Json.need "spec" draft.spec
  return ⟨metadata, spec.1, spec.2, draft.status⟩

/-- Metadata and specification must be given. -/
def read : Json -> Read Cluster :=
  Json.readStruct "KvmCluster" [⟨"metadata", false⟩, ⟨"spec", false⟩, ⟨"status", false⟩]
    readMember finish {}

/-- A cluster with its members in key order. An absent status is not written. -/
def toJson (cluster : Cluster) : Json :=
  .object (
    [("apiVersion", .string apiVersion), ("kind", .string kindName),
      ("metadata", Kube.Metadata.codec.write cluster.metadata),
      ("spec", .object [("cluster", cluster.topology.toJson),
        ("versionBundle", .object [("version", .string cluster.version)])])] ++
    Json.optional "status" ClusterStatus.toJson cluster.status)

end Cluster

end GuestFleet
