import GuestFleet.Kube.Metadata

/-!
# Guest clusters

A guest cluster as its owner describes it: who owns it, which nodes it has, and which
version bundle keeps it running.
-/

namespace GuestFleet

/-- The role of a node. -/
inductive Role where
  | master
  | worker
deriving DecidableEq, Repr

/-- The name of a role in object names and labels. -/
def Role.name : Role -> String
  | .master => "master"
  | .worker => "worker"

/-- One node and the capabilities of its virtual machine. -/
structure Node where
  id : String
  cpus : Int
  memory : String
  disk : String
deriving DecidableEq, Repr

/-- The identity and the nodes of a guest cluster. -/
structure Topology where
  id : String
  customerId : String
  masters : List Node
  workers : List Node
  /-- The base domain of its ingresses, if it differs from the operator's. -/
  ingressDomain : Option String
deriving DecidableEq, Repr

/-- What was last achieved for a cluster. -/
structure ClusterStatus where
  observedGeneration : Int
  appliedVersionBundle : Option String
  lastReconciled : Option String
deriving DecidableEq, Repr

/-- A guest cluster. -/
structure Cluster where
  metadata : Kube.Metadata
  topology : Topology
  /-- The version of the bundle, empty for the oldest one. -/
  version : String
  status : Option ClusterStatus
deriving DecidableEq, Repr

namespace Cluster

/-- The id of a cluster. -/
def id (cluster : Cluster) : String := cluster.topology.id

/-- The nodes with their roles, masters first. -/
def nodes (cluster : Cluster) : List (Role × Node) :=
  cluster.topology.masters.map (fun node => (.master, node)) ++
    cluster.topology.workers.map (fun node => (.worker, node))

/-- The group and version of cluster objects. -/
def apiVersion : String := "provider.giantswarm.io/v1alpha1"

/-- The kind of cluster objects. -/
def kindName : String := "KvmCluster"

end Cluster

end GuestFleet
