import GuestFleet.Manifest.Access
import GuestFleet.Reconcile.Resource
import GuestFleet.Store.Requests

/-!
# Namespaces and rights in the cluster

How the namespace of a guest cluster, its service account and its role bindings are
looked after. Nothing is done for a cluster whose namespace is on its way out.
-/

namespace GuestFleet.Resource

open Kube (Kind Object)

/-- Objects made from the blueprint of a cluster. -/
def ofBlueprint {kind : Kind} (settings : ManifestSettings) (cluster : Cluster)
    (objects : Blueprint -> List (Object kind)) : Work Program (List (Object kind)) :=
  match Blueprint.make cluster settings with
  | .ok blueprint => return objects blueprint
  | .error failure => throw failure

/-- The objects with some names, as far as they exist. -/
def existing (kind : Kind) (space : Option String) (names : List String) :
    Work Program (List (Object kind)) :=
  Work.ofRequest (Request.getExisting kind space names)

/-- The objects that a selector selects. -/
def listed (kind : Kind) (space : Option String) (selector : String) :
    Work Program (List (Object kind)) :=
  Work.ofRequest (Request.list kind space selector)

/-- A resource with the usual differences, whose objects are created and deleted one by
one and never written again. -/
def basic (name : String) (kind : Kind) (current desired : Work Program (List (Object kind))) :
    Resource Program :=
  { name := name
    kind := kind
    currentState := current
    desiredState := desired
    createPatch := fun current desired => return .creations current desired
    updatePatch := fun current desired => return .updates current desired
    deletePatch := fun current desired => return .deletions current desired
    applyCreate := fun objects => Work.ofRequest (Request.createAll objects)
    applyDelete := fun objects => Work.ofRequest (Request.deleteAll none objects)
    applyUpdate := fun _ => return () }

/-- The namespace is being taken down by the API server. -/
def isTerminating (object : Object .namespace) : Bool :=
  object.body.status.any fun status => status.phase == some "Terminating"

/-- Reads the namespace. If it is being taken down there is nothing to bring about. -/
def namespaceState (cluster : Cluster) : Work Program (List (Object .namespace)) := do
  let current <- existing .namespace none [cluster.namespaceName]
  let context <- getThe Context
  if context.event = .apply && current.any isTerminating then set context.cancel
  return current

/-- The namespace of a cluster. -/
def namespaces (settings : ManifestSettings) (cluster : Cluster) : Resource Program :=
  basic "namespace" .namespace (namespaceState cluster)
    (ofBlueprint settings cluster fun blueprint => [blueprint.namespaceObject])

/-- The service account of a cluster. -/
def serviceAccounts (settings : ManifestSettings) (cluster : Cluster) : Resource Program :=
  basic "serviceaccount" .serviceAccount
    (existing .serviceAccount (some cluster.namespaceName) [cluster.serviceAccountName])
    (ofBlueprint settings cluster fun blueprint => [blueprint.serviceAccount])

/-- Brings bindings up to date, save those that only have to be replaced, which are handed
out. The role of a binding cannot be changed, so that a binding with another role is
deleted and created anew. -/
def settleBindings : List (Object .clusterRoleBinding) ->
    Request (List (Object .clusterRoleBinding))
  | [] => return []
  | binding :: bindings => do
    match <- Request.getOptional .clusterRoleBinding none binding.name with
    | some current =>
      if current.body.roleRef ≠ binding.body.roleRef then
        Request.deleteAll none [current]
        Request.createAll [binding]
        settleBindings bindings
      else
        let others <- settleBindings bindings
        return binding :: others
    | none =>
      Request.createAll [binding]
      settleBindings bindings

/-- Writes bindings again. -/
def updateBindings (bindings : List (Object .clusterRoleBinding)) : Request Unit := do
  let remaining <- settleBindings bindings
  Request.replaceAll remaining

/-- The role bindings of a cluster. -/
def clusterRoleBindings (settings : ManifestSettings) (cluster : Cluster) : Resource Program :=
  { basic "clusterrolebinding" .clusterRoleBinding
      (existing .clusterRoleBinding none
        [cluster.roleBindingName, cluster.pspRoleBindingName])
      (ofBlueprint settings cluster Blueprint.roleBindings) with
    applyUpdate := fun objects => Work.ofRequest (updateBindings objects) }

end GuestFleet.Resource
