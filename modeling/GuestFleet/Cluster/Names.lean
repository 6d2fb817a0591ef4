import GuestFleet.Cluster.Spec

/-!
# Names and labels

Every name of an object that belongs to a cluster is a function of the cluster's id
and, for the objects of a node, the node's id. Labels tell whose object it is.
-/

namespace GuestFleet

open Kube (StringMap)

/-! ## Well-known texts -/

/-- The annotation with the object as the operator last wrote it. -/
def lastAppliedKey : String := "cluster-controller.giantswarm.io/last-configuration"

/-- The annotation with the version of the bundle that an object was written for. -/
def versionKey : String := "giantswarm.io/version-bundle-version"

/-- The annotation of pods with the checksum of their node's config map. -/
def checksumKey : String := "kvm-operator.giantswarm.io/config-checksum"

/-- The finalizer that keeps the pods of nodes until the operator releases them. -/
def drainingFinalizer : String := "draining-nodes"

/-- The label with the role of a node or the name of the operator. -/
def appLabel : String := "app"

/-- The label with the id of the cluster. -/
def clusterLabel : String := "cluster"

/-- The label with the id of the customer. -/
def customerLabel : String := "customer"

/-- The label with the id of the node. -/
def nodeLabel : String := "node"

/-- The label `app` of objects that belong to no role. -/
def operatorApp : String := "kvm-operator"

/-! ## Names -/

/-- The name of a node's deployment and of its config map. -/
def nodeName (role : Role) (clusterId nodeId : String) : String :=
  role.name ++ "-" ++ clusterId ++ "-" ++ nodeId

/-- The start of the names of a cluster's etcd claims. -/
def etcdClaimStart (clusterId : String) : String := "pvc-master-etcd-" ++ clusterId ++ "-"

/-- The name of a master's etcd claim. -/
def etcdClaimName (clusterId nodeId : String) : String := etcdClaimStart clusterId ++ nodeId

namespace Cluster

/-- The namespace of the cluster's objects, named by its id. -/
def namespaceName (cluster : Cluster) : String := cluster.id

/-- The service account of the cluster's pods. -/
def serviceAccountName (cluster : Cluster) : String := cluster.id

/-- The general role binding. -/
def roleBindingName (cluster : Cluster) : String := cluster.id

/-- The role binding for the pod security policy. -/
def pspRoleBindingName (cluster : Cluster) : String := cluster.id ++ "-psp"

/-- The host name of the guest API. -/
def apiDomain (cluster : Cluster) (domain : String) : String :=
  "api." ++ cluster.id ++ "." ++ domain

/-- The host name of the guest etcd. -/
def etcdDomain (cluster : Cluster) (domain : String) : String :=
  "etcd." ++ cluster.id ++ "." ++ domain

/-! ## Labels and selectors -/

/-- The labels of every object of the cluster. -/
def labels (cluster : Cluster) (app : String) : StringMap :=
  [(appLabel, app), (clusterLabel, cluster.id), (customerLabel, cluster.topology.customerId)]

/-- The labels of a node's objects, by which its pods are selected too. -/
def nodeLabels (cluster : Cluster) (role : Role) (node : Node) : StringMap :=
  cluster.labels role.name ++ [(nodeLabel, node.id)]

/-- The selector of the objects of one role. -/
def roleSelector (cluster : Cluster) (role : Role) : String :=
  clusterLabel ++ "=" ++ cluster.id ++ "," ++ appLabel ++ "=" ++ role.name

/-- The selector of the objects of all nodes. -/
def nodeSelector (cluster : Cluster) : String :=
  clusterLabel ++ "=" ++ cluster.id ++ "," ++ appLabel ++ " in (" ++ Role.master.name ++ "," ++
    Role.worker.name ++ ")"

/-- The annotation with the version of the cluster's bundle. -/
def versionAnnotations (cluster : Cluster) : StringMap := [(versionKey, cluster.version)]

end Cluster

end GuestFleet
