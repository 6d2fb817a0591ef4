import GuestFleet.Controller.Requeue
import GuestFleet.Store.Program

/-!
# Finalizers

The operator puts a finalizer on every cluster that it looks after and takes it off when
everything is torn down, so that no cluster is gone before its objects are.
-/

namespace GuestFleet.Controller

/-- Why a reconciliation under a finalizer fails. -/
inductive FinalizerFault where
  | applyFailed (cause : Failure)
  | cleanupFailed (cause : Failure)
  | addFinalizer (cause : RequestFault)
  | removeFinalizer (cause : RequestFault)
  | unnamedObject
  | invalidFinalizer
deriving DecidableEq, Repr

/-- The failure that counts: what was done for the object, or the reconciliation itself. -/
def FinalizerFault.failure : FinalizerFault -> Failure
  | .applyFailed cause => cause
  | .cleanupFailed cause => cause
  | .addFinalizer cause => .reconcile (.addFinalizer cause)
  | .removeFinalizer cause => .reconcile (.removeFinalizer cause)
  | .unnamedObject => .reconcile .unnamedObject
  | .invalidFinalizer => .reconcile .invalidFinalizer

/-- Changes the finalizers of a cluster, which needs a name for that. -/
def patchFinalizers (cluster : Cluster) (patch : ClusterPatch)
    (fault : RequestFault -> FinalizerFault) : ExceptT FinalizerFault Program Unit :=
  match cluster.metadata.name with
  | none => throw .unnamedObject
  | some name => ExceptT.adapt fault (Request.patchCluster cluster.home name patch)

/-- Looks after a cluster under the operator's finalizer. A cluster without it gets it, and
is applied once it is seen with it. One that goes away is cleaned up before the finalizer
is taken off, and left alone from then on. -/
def underFinalizer (cluster : Cluster) (apply cleanup : Request Action) :
    ExceptT FinalizerFault Program Action :=
  match cluster.finalizers.idxOf? clusterFinalizer, cluster.isDeleting with
  | some _, false => ExceptT.adapt .applyFailed apply
  | some index, true => do
    if cluster.metadata.name.isNone then throw .unnamedObject
    let action <- ExceptT.adapt .cleanupFailed cleanup
    patchFinalizers cluster (.removeFinalizer index) .removeFinalizer
    return action
  | none, false => do
    patchFinalizers cluster (.addFinalizer cluster.finalizers) .addFinalizer
    return .awaitChange
  | none, true => return .awaitChange

end GuestFleet.Controller
