import GuestFleet.Proofs.Cluster.Afresh
import GuestFleet.Proofs.Cluster.Rolling

/-!
# Selectors of rolled nodes

A deployment selects pods by the labels of its node, one of which says who the customer is. The API
server lets nobody change what a deployment selects by. A node is rolled by writing its deployment
again with what it would be made with now, which is refused after the cluster got another customer.
-/

namespace GuestFleet

open Kube (Object)

/-- What a deployment selects its pods by. -/
def Deployment.specSelector (deployment : Deployment) : Option Kube.LabelSelector :=
  deployment.body.spec.map (·.selector)

namespace Resource

/-- What is planned for deployments. -/
def deploymentPlan (context : Context) (current desired : List Deployment) :
    ChangeSet .deployment :=
  { create := Diff.created current desired
    delete := Diff.obsolete current desired
    update := nextRoll context current desired }

/-- While all deployments are available, some node is rolled when there is one whose config map was
replaced. -/
theorem nextRoll_ne_nil {context : Context} {current desired : List Deployment}
    (available : current.all Deployment.isAvailable = true) {deployment : Deployment}
    (mem : deployment ∈ desired) (noted : context.isUpdated deployment.name = true)
    (there : ∃ existing ∈ current, existing.name = deployment.name) :
    nextRoll context current desired ≠ [] := by
  have rolls {first : Deployment} (next : first ∈ nextRoll context current desired) :
      nextRoll context current desired ≠ [] := List.ne_nil_of_mem next
  cases modified : Diff.modified current desired with
  | nil =>
    obtain ⟨first, isFirst⟩ := exists_isFirst mem (p := fun other =>
      context.isUpdated other.name = true ∧ ∃ existing ∈ current, existing.name = other.name)
      ⟨noted, there⟩
    exact rolls ((mem_nextRoll available).2 (.inr ⟨modified, isFirst⟩))
  | cons other others =>
    have differs : other ∈ Diff.modified current desired := modified ▸ List.mem_cons_self
    have wanted : other ∈ desired := List.mem_of_mem_filter differs
    obtain ⟨first, isFirst⟩ := exists_isFirst (p := (· ∈ Diff.modified current desired)) wanted
      differs
    exact rolls ((mem_nextRoll available).2 (.inl isFirst))

end Resource

namespace Blueprint

/-- The deployment was made for a node of the cluster. Its status and more of its metadata may have
been set since. -/
def Made (b : Blueprint) (etcd : EtcdStorage) (live : Deployment) : Prop :=
  ∃ made ∈ b.deployments etcd, made.key = live.key ∧ made.body.spec = live.body.spec

/-- What is written to roll a node selects by the same labels as the deployment that was made before
if, and only if, the customer is the same. -/
theorem specSelector_eq_iff_customer {first second : Blueprint}
    (sameId : first.cluster.id = second.cluster.id) (old etcd : EtcdStorage) (context : Context)
    (current : List Deployment) :
    let desired := second.deployments etcd
    let patch := Resource.deploymentPlan context current desired
    ((Resource.deployments second.settings etcd second.cluster).updatePatch current
        desired).run.run context = pure (.ok patch, context) ∧
      ∀ live ∈ current, first.Made old live -> ∀ replacement ∈ patch.update,
        replacement.key = live.key ->
          (Deployment.specSelector replacement = Deployment.specSelector live <->
            first.cluster.topology.customerId = second.cluster.topology.customerId) := by
  intro desired patch
  refine ⟨rfl, ?_⟩
  rintro live - ⟨made, isMade, sameKey, sameSpec⟩ replacement rolled key
  have wanted : replacement ∈ desired :=
    (Resource.nextRoll_sublist context current desired).subset rolled
  obtain ⟨⟨role, node⟩, -, rfl⟩ := List.mem_map.1 isMade
  obtain ⟨⟨roleOther, other⟩, -, rfl⟩ := List.mem_map.1 wanted
  have names := congrArg Kube.Key.name (sameKey.trans key.symm)
  obtain ⟨rfl, sameNode⟩ := nodeName_node sameId names
  have selects : Deployment.specSelector live =
      some ⟨some (first.cluster.nodeLabels role node)⟩ := by
    rw [Deployment.specSelector, ← sameSpec]
    rfl
  have reselects : Deployment.specSelector (second.deployment etcd role other) =
      some ⟨some (second.cluster.nodeLabels role other)⟩ := rfl
  rw [selects, reselects, Option.some_inj, Kube.LabelSelector.mk.injEq, Option.some_inj, eq_comm,
    Cluster.nodeLabels_eq_iff sameId role sameNode]

/-- After the small cluster got another customer its master is rolled, and would select by other
labels than before. -/
theorem specSelector_ne_moved :
    let first : Blueprint := ⟨smallCluster "al9qy", {}⟩
    let second : Blueprint := ⟨Pass.movedCluster, {}⟩
    let desired := second.deployments .persistentVolume
    let live : Deployment :=
      (first.deployment .persistentVolume .master ⟨"m1", 2, "2G", "20G"⟩).withStatus
        (some { availableReplicas := some 1, replicas := some 1 })
    let context : Context := { updatedConfigMaps := ["master-al9qy-m1"] }
    let patch := Resource.deploymentPlan context [live] desired
    (first.cluster.isValid = true ∧ second.cluster.isValid = true ∧
      first.cluster.id = second.cluster.id ∧ first.Made .persistentVolume live) ∧
    ((Resource.deployments second.settings .persistentVolume second.cluster).updatePatch [live]
        desired).run.run context = pure (.ok patch, context) ∧
      ∃ replacement ∈ patch.update, replacement.key = live.key ∧
        Deployment.specSelector replacement ≠ Deployment.specSelector live := by
  intro first second desired live context patch
  have valid : first.cluster.isValid = true ∧ second.cluster.isValid = true := by decide
  have sameId : first.cluster.id = second.cluster.id := rfl
  have made : first.Made .persistentVolume live := ⟨_, List.mem_singleton_self _, rfl, rfl⟩
  have among : live ∈ [live] := List.mem_singleton_self live
  obtain ⟨planned, selects⟩ :=
    specSelector_eq_iff_customer sameId .persistentVolume .persistentVolume context [live]
  let replacement := second.deployment .persistentVolume .master ⟨"m1", 2, "2G", "20G"⟩
  have single : desired = [replacement] := rfl
  have wanted : replacement ∈ desired := List.mem_singleton_self replacement
  have rolls : Resource.nextRoll context [live] desired ≠ [] :=
    Resource.nextRoll_ne_nil rfl wanted rfl ⟨live, among, rfl⟩
  obtain ⟨rolled, mem⟩ := List.exists_mem_of_ne_nil _ rolls
  have within := (Resource.nextRoll_sublist context [live] desired).subset mem
  obtain rfl : rolled = replacement := List.mem_singleton.1 within
  have key : replacement.key = live.key := rfl
  refine ⟨⟨valid.1, valid.2, sameId, made⟩, planned, replacement, mem, key, fun same => ?_⟩
  have sameCustomer := (selects live among made replacement mem key).1 same
  exact absurd sameCustomer (by decide)

end Blueprint

end GuestFleet
