import GuestFleet.Cluster.Names
import GuestFleet.Resource.Access

/-!
# Pods of nodes

Pods of nodes carry a finalizer until the operator releases them. A pod that goes away
is released and then deleted without grace; one that was written by others in the
meantime is left for the next event.
-/

namespace GuestFleet.Resource

open Kube (Object)

/-- A pod of a node. -/
abbrev Pod := Object .pod

/-- The pod waits for the operator. -/
def hasDrainingFinalizer (pod : Pod) : Bool := pod.metadata.hasFinalizer drainingFinalizer

/-- The pod is on its way out and waits only for the operator. -/
def awaitsRelease (pod : Pod) : Bool :=
  pod.metadata.deletionTimestamp.isSome && hasDrainingFinalizer pod

/-- The pod without the operator's finalizer. -/
def released (pod : Pod) : Pod :=
  { pod with
    metadata :=
      { pod.metadata with
        finalizers := pod.metadata.finalizers.map fun finalizers =>
          finalizers.filter fun finalizer => finalizer != drainingFinalizer } }

/-- Takes the operator's finalizer off a pod; false if others have written the pod since it
was read. -/
def release (pod : Pod) : Request Bool := do
  if hasDrainingFinalizer pod then
    match <- (Request.replace (released pod)).attempt with
    | .ok _ => return true
    | .error failure =>
      if failure.isConflict then return false
      else if failure.isNotFound then return true
      else throw failure
  else return true

/-- Releases and deletes pods up to the first that others have written. -/
def drain : List Pod -> Request Unit
  | [] => return ()
  | pod :: pods => do
    if <- release pod then
      Request.deleteAll (some 0) [pod]
      drain pods
    else return ()

/-- A pod as a resource of its own. -/
def pods (pod : Pod) : Resource Program :=
  { basic "pod" .pod
      (existing .pod pod.metadata.namespaceName [pod.name])
      (return [pod]) with
    createPatch := fun _ _ => return {}
    updatePatch := fun _ _ => return {}
    applyCreate := fun _ => return ()
    applyDelete := fun pods => Work.ofRequest (drain pods) }

end GuestFleet.Resource
