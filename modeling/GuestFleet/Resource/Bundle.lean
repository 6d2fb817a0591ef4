import GuestFleet.Config
import GuestFleet.Reconcile.Metered
import GuestFleet.Reconcile.Pass
import GuestFleet.Reconcile.Retried
import GuestFleet.Reconcile.Router
import GuestFleet.Resource.Network
import GuestFleet.Resource.Pod
import GuestFleet.Resource.Workload

/-!
# Bundles of resources

Which resources make up a cluster of which version, in what order they are looked after,
and the passes over them. Every resource is retried and metered.
-/

namespace GuestFleet

namespace Resource

/-- The resources of a cluster in order. Clusters with etcd on the host have no claims. -/
def ofCluster (settings : ManifestSettings) (etcd : EtcdStorage) (cluster : Cluster) :
    List (Resource Program) :=
  [namespaces settings cluster, serviceAccounts settings cluster,
    clusterRoleBindings settings cluster, configMaps settings cluster] ++
  (match etcd with
    | .hostPath => []
    | .persistentVolume => [etcdClaims settings cluster]) ++
  [deployments settings etcd cluster, ingresses settings cluster, services settings cluster]

/-- A resource retried and metered, as a handler of a pass. -/
def wrapped (policy : RetryPolicy) (scope : String) (resource : Resource Program) :
    Handler Program :=
  ((resource.retried policy scope).metered scope).handler

/-- The storage of etcd in every version bundle. -/
def bundles : VersionTable EtcdStorage :=
  [("", .hostPath), ("0.1.0", .hostPath), ("1.0.0", .persistentVolume),
    ("1.1.0", .persistentVolume)]

/-- The namespace of a pod, by which its metrics and its retries go. -/
def podScope (pod : Pod) : String := pod.metadata.namespaceName.getD ""

end Resource

namespace Pass

/-- The handlers of a cluster. -/
def clusterHandlers (config : Config) (etcd : EtcdStorage) (cluster : Cluster) :
    List (Handler Program) :=
  (Resource.ofCluster config.manifests etcd cluster).map
    (Resource.wrapped config.retry cluster.namespaceName)

/-- A pass over a cluster. -/
def overCluster (config : Config) (cluster : Cluster) (event : Event) : Request Outcome :=
  match Resource.bundles.resolve cluster.version with
  | .ok etcd => run event (clusterHandlers config etcd cluster)
  | .error failure => throw failure

/-- A pass over a pod. -/
def overPod (config : Config) (pod : Resource.Pod) (event : Event) : Request Outcome :=
  run event [Resource.wrapped config.retry (Resource.podScope pod) (Resource.pods pod)]

end Pass

end GuestFleet
