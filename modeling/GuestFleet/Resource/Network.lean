import GuestFleet.Manifest.Network
import GuestFleet.Resource.Access

/-!
# Ingresses and services in the cluster

Others write into ingresses and services too, so these are merged with what there is
and never simply replaced.
-/

namespace GuestFleet.Resource

open Kube (Kind Object)

/-- A resource whose objects are merged with those that exist. -/
def merging (name : String) (kind : Kind) (names : List String) (cluster : Cluster)
    (desired : Work Program (List (Object kind))) : Resource Program :=
  { basic name kind (existing kind (some cluster.namespaceName) names) desired with
    applyCreate := fun objects => Work.ofRequest (Request.mergeAll objects)
    applyUpdate := fun objects => Work.ofRequest (Request.mergeAll objects) }

/-- The ingresses of a cluster. -/
def ingresses (settings : ManifestSettings) (cluster : Cluster) : Resource Program :=
  merging "ingress" .ingress ["etcd", "api"] cluster
    (ofBlueprint settings cluster Blueprint.ingresses)

/-- The services of a cluster. -/
def services (settings : ManifestSettings) (cluster : Cluster) : Resource Program :=
  merging "service" .service [Role.master.name, Role.worker.name] cluster
    (ofBlueprint settings cluster Blueprint.services)

end GuestFleet.Resource
