import GuestFleet.Cluster.Reading

/-!
# Patches of clusters

What the operator writes on the clusters that it looks after: its finalizer, by patches
that test first what they change, and the status after a completed pass.
-/

namespace GuestFleet

/-- The finalizer that keeps a cluster until its objects are torn down. -/
def clusterFinalizer : String := "provider.giantswarm.io/kvm-cluster-finalizer"

/-- A change that the operator makes to a cluster. -/
inductive ClusterPatch where
  /-- Puts the operator's finalizer behind those that the cluster has. -/
  | addFinalizer (others : List String)
  /-- Takes the operator's finalizer off, which is at an index. -/
  | removeFinalizer (index : Nat)
  /-- Notes a status. -/
  | status (status : ClusterStatus)
deriving DecidableEq, Repr

namespace ClusterPatch

/-- Where a cluster keeps its finalizers. -/
def finalizersPath : String := "/metadata/finalizers"

/-- One operation of a patch. -/
def operation (name path : String) (value : Option Json) : Json :=
  .ofMembers ([("op", .string name), ("path", .string path)] ++ Json.optional "value" id value)

/-- The patch as it is sent. -/
def body : ClusterPatch -> Json
  | .addFinalizer [] =>
    .array [operation "test" finalizersPath (some .null),
      operation "add" finalizersPath (some (Json.ofStrings [clusterFinalizer]))]
  | .addFinalizer others =>
    .array [operation "test" finalizersPath (some (Json.ofStrings others)),
      operation "add" (finalizersPath ++ "/-") (some (.string clusterFinalizer))]
  | .removeFinalizer index =>
    let path := finalizersPath ++ "/" ++ toString index
    .array [operation "test" path (some (.string clusterFinalizer)), operation "remove" path none]
  | .status achieved => .object [("status", achieved.toJson)]

end ClusterPatch

namespace Cluster

/-- The name of a cluster, or what its name was to be made from. -/
def name (cluster : Cluster) : String :=
  (cluster.metadata.name <|> cluster.metadata.generateName).getD ""

/-- The namespace that a cluster itself lives in. -/
def home (cluster : Cluster) : String := cluster.metadata.namespaceName.getD "default"

/-- The cluster is on its way out. -/
def isDeleting (cluster : Cluster) : Bool := cluster.metadata.deletionTimestamp.isSome

/-- The finalizers of a cluster. -/
def finalizers (cluster : Cluster) : List String := cluster.metadata.finalizers.getD []

end Cluster

end GuestFleet
