import GuestFleet.Change.Snapshot

/-!
# Modified objects

When an object in the cluster differs from its desired form so that it has to be
written again. What counts depends on the kind: the data of config maps, subjects and
role of bindings, the rollout of deployments, the snapshot of ingresses and services.
-/

namespace GuestFleet

open Kube (Kind Object Container PodTemplate)

/-- A workload that keeps the virtual machine of a node running. -/
abbrev Deployment := Object .deployment

namespace Deployment

/-- The version of the bundle that a deployment was written for. -/
def version (deployment : Deployment) : Option String :=
  deployment.metadata.annotationOf versionKey

/-- The pods that a deployment makes. -/
def template (deployment : Deployment) : Option PodTemplate :=
  deployment.body.spec.map (·.template)

/-- The checksum of the config map that the pods were made for. -/
def checksum (deployment : Deployment) : Option String := do
  let template <- deployment.template
  let metadata <- template.metadata
  metadata.annotationOf checksumKey

/-- The count of pods that there should be; one unless it says otherwise. -/
def replicas (deployment : Deployment) : Int :=
  (deployment.body.spec.bind (·.replicas)).getD 1

/-- The containers of a pod. -/
def containers (deployment : Deployment) : List Container :=
  ((deployment.template.bind (·.spec)).map (·.containers)).getD []

/-- Every pod that there should be is available. -/
def isAvailable (deployment : Deployment) : Bool :=
  decide ((deployment.body.status.bind (·.availableReplicas)).getD 0 ≥ deployment.replicas)

/-- The last container with a name. -/
def container? (containers : List Container) (name : String) : Option Container :=
  containers.reverse.find? fun container => container.name == name

/-- The containers differ in number or in the image or environment of one of them. -/
def containersDiffer (current desired : List Container) : Bool :=
  (current.map (·.name)).eraseDups.length != desired.length ||
    desired.any fun wanted =>
      match container? current wanted.name with
      | some container => container.image != wanted.image || container.env != wanted.env
      | none => true

/-- The node has to be rolled: version, size, config map or containers differ. -/
def isModified (current desired : Deployment) : Bool :=
  current.version != desired.version || current.replicas != desired.replicas ||
    current.checksum != desired.checksum ||
    containersDiffer current.containers desired.containers

end Deployment

/-- The object has to be written again to become the desired one. -/
def Kube.Object.isModified : {kind : Kind} -> Object kind -> Object kind -> Bool
  | .namespace, _, _ => false
  | .serviceAccount, _, _ => false
  | .clusterRoleBinding, current, desired =>
    current.body.subjects != desired.body.subjects || current.body.roleRef != desired.body.roleRef
  | .configMap, current, desired => current.body.data != desired.body.data
  | .persistentVolumeClaim, _, _ => false
  | .deployment, current, desired => Deployment.isModified current desired
  | .ingress, current, desired => current.needsUpdate desired
  | .service, current, desired => current.needsUpdate desired
  | .pod, _, _ => false

end GuestFleet
