import GuestFleet.Cluster.Spec

/-!
# The status of clusters

What is noted on a cluster after a completed pass.
-/

namespace GuestFleet.Cluster

/-- The status after a pass that completed at a certain time. -/
def achieved (cluster : Cluster) (time : String) : ClusterStatus :=
  { observedGeneration := cluster.metadata.generation.getD 0
    appliedVersionBundle := some cluster.version
    lastReconciled := some time }

end GuestFleet.Cluster
