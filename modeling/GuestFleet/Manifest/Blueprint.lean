import GuestFleet.Cluster.Names
import GuestFleet.Failure
import GuestFleet.Kube.Object

/-!
# Blueprints

A cluster together with the settings of the operator: everything that the objects of
the cluster are made from. Making them never reads or writes anything.
-/

namespace GuestFleet

open Kube (Metadata Object StringMap)

/-- The settings of the objects that are made for clusters. -/
structure ManifestSettings where
  /-- The image of the container that runs a node's virtual machine. -/
  image : String := "quay.io/giantswarm/k8s-kvm:latest"
  /-- The base domain of ingresses. -/
  ingressDomain : String := "k8s.local"
  /-- The storage class of etcd volumes, if it is not the usual one. -/
  storageClass : Option String := none
  /-- The size of etcd volumes. -/
  etcdVolumeSize : String := "15Gi"
  /-- The directory of the host with the etcd data of old bundles. -/
  etcdHostPath : String := "/var/lib/etcd"
  /-- The role of the guest's service account. -/
  clusterRole : String := "kvm-operator-guest"
  /-- The role of the guest's service account for the pod security policy. -/
  pspClusterRole : String := "kvm-operator-guest-psp"
deriving DecidableEq, Repr

/-- Where masters keep the data of etcd. -/
inductive EtcdStorage where
  /-- A directory of the host. -/
  | hostPath
  /-- One volume claim for each master. -/
  | persistentVolume
deriving DecidableEq, Repr

/-- What the objects of a cluster are made from. -/
structure Blueprint where
  cluster : Cluster
  settings : ManifestSettings
deriving DecidableEq, Repr

namespace Blueprint

/-- The blueprint of a cluster, which must have an id. -/
def make (cluster : Cluster) (settings : ManifestSettings) : Except Failure Blueprint :=
  if cluster.id.isEmpty then .error (.invalidConfig .noClusterId) else .ok ⟨cluster, settings⟩

/-- The base domain of the cluster's ingresses: its own, or the operator's. -/
def ingressDomain (b : Blueprint) : String :=
  b.cluster.topology.ingressDomain.getD b.settings.ingressDomain

/-- The host name of the guest API. -/
def apiDomain (b : Blueprint) : String := b.cluster.apiDomain b.ingressDomain

/-- The host name of the guest etcd. -/
def etcdDomain (b : Blueprint) : String := b.cluster.etcdDomain b.ingressDomain

/-- The metadata of an object that belongs to no namespace. -/
def clusterWide (name : String) (labels : StringMap) : Metadata :=
  { name := some name, labels := some labels }

/-- The metadata of an object in the cluster's namespace. -/
def namespaced (b : Blueprint) (name : String) (labels : StringMap) : Metadata :=
  { name := some name, namespaceName := some b.cluster.namespaceName, labels := some labels }

end Blueprint

end GuestFleet
