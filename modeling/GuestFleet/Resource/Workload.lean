import GuestFleet.Manifest.Workload
import GuestFleet.Resource.Access

/-!
# Nodes in the cluster

How the config maps, volume claims and deployments of nodes are looked after. They are
found by their labels, so that those of removed nodes are found too. Nodes are rolled
one at a time, and only while all of them are available.
-/

namespace GuestFleet.Resource

open Kube (Object)

/-- Replaces config maps and notes which. -/
def updateConfigMaps (objects : List (Object .configMap)) : Work Program Unit := do
  Work.ofRequest (Request.replaceAll objects)
  modifyThe Context fun context =>
    objects.foldl (fun context object => context.noteConfigMap object.name) context

/-- The config maps of a cluster's nodes. -/
def configMaps (settings : ManifestSettings) (cluster : Cluster) : Resource Program :=
  { basic "configmap" .configMap
      (listed .configMap (some cluster.namespaceName) cluster.nodeSelector)
      (ofBlueprint settings cluster Blueprint.configMaps) with
    applyUpdate := updateConfigMaps }

/-- The claim has a name like those of the cluster's etcd claims. -/
def isEtcdClaim (clusterId : String) (claim : Object .persistentVolumeClaim) : Bool :=
  (etcdClaimStart clusterId).toList.isPrefixOf claim.name.toList

/-- The etcd claims of a cluster, those of removed masters too. -/
def listEtcdClaims (cluster : Cluster) :
    Work Program (List (Object .persistentVolumeClaim)) := do
  let claims <- listed .persistentVolumeClaim (some cluster.namespaceName)
    (cluster.roleSelector .master)
  return claims.filter (isEtcdClaim cluster.id)

/-- The etcd claims of a cluster's masters. -/
def etcdClaims (settings : ManifestSettings) (cluster : Cluster) : Resource Program :=
  basic "pvc" .persistentVolumeClaim (listEtcdClaims cluster)
    (ofBlueprint settings cluster Blueprint.etcdClaims)

/-- The desired deployments that exist and whose node has to be rolled: those that differ,
then those whose config map was replaced in this pass. -/
def rollCandidates (context : Context) (current desired : List Deployment) : List Deployment :=
  let modified := Diff.modified current desired
  modified ++ desired.filter fun deployment =>
    context.isUpdated deployment.name &&
      current.any (fun existing => existing.name == deployment.name) &&
      !modified.any fun candidate => candidate.name == deployment.name

/-- The deployments to write again: one at most, and none unless all are available. -/
def nextRoll (context : Context) (current desired : List Deployment) : List Deployment :=
  if current.all Deployment.isAvailable then (rollCandidates context current desired).take 1
  else []

/-- What has to change in deployments. -/
def deploymentUpdates (current desired : List Deployment) :
    Work Program (ChangeSet .deployment) := do
  let context <- getThe Context
  return {
    create := Diff.created current desired
    delete := Diff.obsolete current desired
    update := nextRoll context current desired }

/-- The deployments of a cluster's nodes. -/
def deployments (settings : ManifestSettings) (etcd : EtcdStorage) (cluster : Cluster) :
    Resource Program :=
  { basic "deployment" .deployment
      (listed .deployment (some cluster.namespaceName) cluster.nodeSelector)
      (ofBlueprint settings cluster fun blueprint => blueprint.deployments etcd) with
    updatePatch := deploymentUpdates
    applyUpdate := fun objects => Work.ofRequest (Request.replaceAll objects) }

end GuestFleet.Resource
