import GuestFleet.Cluster.Status
import GuestFleet.Cluster.Validation
import GuestFleet.Controller.Finalizer
import GuestFleet.Resource.Bundle

/-!
# Controllers

A controller looks after the objects of one type. There is one for clusters and one for
the pods of their nodes. A turn of a controller is a pass over one object, counted and
timed; after it the controller decides when to look at the object again.
-/

namespace GuestFleet

open Controller (Action FailureCounts)

/-- What looks after the objects of a type. -/
structure Controller (α : Type) where
  /-- The name of the controller in metrics and in its readiness. -/
  name : String
  /-- The metadata of an object. -/
  metadata : α -> Kube.Metadata
  /-- What the failures of an object are counted under. -/
  key : α -> String
  /-- Objects that do not concern the controller are left alone. -/
  concerns : α -> Bool
  /-- A pass over an object. -/
  pass : α -> Request Action

namespace Controller

/-- A turn on an object: what came of the pass, and nothing if the object does not concern
the controller. -/
def turn (controller : Controller α) (object : α) : Program (Option (Except Failure Action)) :=
  if controller.concerns object then do
    Records.record (.passStarted controller.name)
    let result <- (controller.pass object).run
    Records.record (.passEnded controller.name)
    if let .error _ := result then Records.record (.passFailed controller.name)
    return some result
  else return none

/-- What to do after a turn, and the failures in a row from then on. -/
def decide (controller : Controller α) (counts : FailureCounts) (object : α) :
    Option (Except Failure Action) -> Action × FailureCounts
  | none => (.awaitChange, counts)
  | some (.ok action) => (action, counts.succeeded (controller.key object))
  | some (.error failure) => counts.failed (controller.key object) failure

/-- Refuses a cluster with findings. -/
def requireValid (cluster : Cluster) : Request Unit :=
  match cluster.findings with
  | [] => return ()
  | findings => throw (.invalidCluster (Finding.summary findings))

/-- Notes on a cluster what a completed pass has achieved. -/
def noteStatus (cluster : Cluster) : Request Unit := do
  let time <- Request.now
  ExceptT.adapt .request
    (Request.patchCluster cluster.home cluster.name (.status (cluster.achieved time.text)))

/-- Brings the objects of a cluster to what it describes, and rests after that. -/
def applyCluster (config : Config) (cluster : Cluster) : Request Action := do
  requireValid cluster
  match <- Pass.overCluster config cluster .apply with
  | .completed => noteStatus cluster
  | .cancelled _ => pure ()
  return .requeue config.resync

/-- Tears the objects of a cluster down. -/
def cleanUpCluster (config : Config) (cluster : Cluster) : Request Action := do
  let _ <- Pass.overCluster config cluster .delete
  return .awaitChange

/-- The name of the controller of clusters. -/
def clustersName : String := "kvmcluster"

/-- The name of the controller of pods. -/
def podsName : String := "pod"

/-- The names of all controllers. -/
def names : List String := [clustersName, podsName]

/-- The controller of clusters. -/
def clusters (config : Config) : Controller Cluster where
  name := clustersName
  metadata := Cluster.metadata
  key cluster := cluster.home ++ "/" ++ cluster.name
  concerns _ := true
  pass cluster :=
    ExceptT.adapt FinalizerFault.failure
      (underFinalizer cluster (applyCluster config cluster) (cleanUpCluster config cluster))

/-- The controller of the pods of nodes, which cares only for those that wait for it. -/
def pods (config : Config) : Controller Resource.Pod where
  name := podsName
  metadata pod := pod.metadata
  key pod :=
    pod.metadata.namespaceName.getD "" ++ "/" ++
      (pod.metadata.name <|> pod.metadata.generateName).getD ""
  concerns := Resource.awaitsRelease
  pass pod := do
    let _ <- Pass.overPod config pod .delete
    return .awaitChange

end Controller

end GuestFleet
