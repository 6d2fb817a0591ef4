import GuestFleet.Proofs.Change.Differences
import GuestFleet.Proofs.Cluster.Valid

/-!
# The objects of a valid cluster

No two objects that a valid cluster needs are in the same slot, and the slots that a
resource looks into, by name or by label, hold every object of its kind that belongs to the
cluster.
-/

namespace GuestFleet

open Kube (Kind Object)
open Kube.SelectorTerm (IsPlain)
open Store (Collection Slot slotOf)

/-! ## Slots -/

/-- Nodes of a cluster whose objects have one name have one id. -/
theorem nodeName_injective {first second : Role} {clusterId a b : String}
    (same : nodeName first clusterId a = nodeName second clusterId b) : a = b := by
  have chars := congrArg String.toList same
  simp only [nodeName, String.toList_append] at chars
  have lengths : (first.name.toList ++ "-".toList ++ clusterId.toList ++ "-".toList).length =
      (second.name.toList ++ "-".toList ++ clusterId.toList ++ "-".toList).length := by
    simp only [List.length_append]
    cases first <;> cases second <;> rfl
  exact String.toList_injective (List.append_inj_right chars lengths)

/-- Nodes whose claims have one name have one id. -/
theorem etcdClaimName_injective {clusterId a b : String}
    (same : etcdClaimName clusterId a = etcdClaimName clusterId b) : a = b := by
  have chars := congrArg String.toList same
  rw [etcdClaimName, etcdClaimName, String.toList_append, String.toList_append] at chars
  exact String.toList_injective (List.append_cancel_left chars)

/-- The slots of objects that are made one for each item are different when no two items
have the same mark and the slot determines the mark. -/
theorem apart_map {kind : Kind} {items : List α} {make : α -> Object kind} {mark : α -> String}
    (nodup : (items.map mark).Nodup)
    (marked : ∀ a b, slotOf (make a) = slotOf (make b) -> mark a = mark b) :
    Apart (items.map make) := by
  rw [Apart, List.map_map]
  refine (List.Nodup.of_map mark nodup).map_on ?_
  intro a memA b memB same
  exact List.inj_on_of_nodup_map nodup memA memB (marked a b same)

/-- Two objects with different names are in different slots. -/
theorem apart_pair {kind : Kind} {one other : Object kind} (differ : one.name ≠ other.name) :
    Apart [one, other] := by
  refine List.nodup_cons.2 ⟨?_, List.nodup_singleton _⟩
  intro mem
  exact differ (congrArg Slot.name (List.mem_singleton.1 mem))

namespace Blueprint

/-- A blueprint can be made of every valid cluster. -/
theorem make_of_valid {cluster : Cluster} (valid : cluster.isValid = true)
    (settings : ManifestSettings) : make cluster settings = .ok ⟨cluster, settings⟩ := by
  rw [make, (Cluster.id_of_valid valid).2]
  rfl

/-- The slots of a kind that a resource of a cluster looks into: a namespace, when it finds
objects by their labels, and otherwise the slots of what is desired. -/
def Sees (b : Blueprint) (etcd : EtcdStorage) (kind : Kind) (slot : Slot) : Prop :=
  match kind with
  | .configMap => slot.space = b.cluster.id
  | .persistentVolumeClaim => slot.space = b.cluster.id
  | .deployment => slot.space = b.cluster.id
  | kind => ∃ object ∈ b.desired etcd kind, slotOf object = slot

/-- A cluster looks into the slots of what it wants. -/
theorem sees_desired (b : Blueprint) (etcd : EtcdStorage) {kind : Kind} {object : Object kind}
    (mem : object ∈ b.desired etcd kind) : b.Sees etcd kind (slotOf object) := by
  have slot := (b.belongs_desired etcd mem).slot
  cases kind with
  | configMap => exact slot
  | persistentVolumeClaim => exact slot
  | deployment => exact slot
  | pod => cases mem
  | «namespace» => exact ⟨object, mem, rfl⟩
  | serviceAccount => exact ⟨object, mem, rfl⟩
  | clusterRoleBinding => exact ⟨object, mem, rfl⟩
  | ingress => exact ⟨object, mem, rfl⟩
  | service => exact ⟨object, mem, rfl⟩

/-- Every object is made with a name and without a resource version. -/
theorem metadata_desired (b : Blueprint) (etcd : EtcdStorage) {kind : Kind}
    {object : Object kind} (mem : object ∈ b.desired etcd kind) :
    object.metadata.name = some object.name ∧ object.metadata.resourceVersion = none := by
  cases kind with
  | «namespace» =>
    rw [List.mem_singleton.1 mem]
    exact ⟨rfl, rfl⟩
  | serviceAccount =>
    rw [List.mem_singleton.1 mem]
    exact ⟨rfl, rfl⟩
  | clusterRoleBinding =>
    rcases List.mem_cons.1 mem with rfl | mem
    · exact ⟨rfl, rfl⟩
    · rw [List.mem_singleton.1 mem]
      exact ⟨rfl, rfl⟩
  | configMap =>
    obtain ⟨⟨role, node⟩, -, rfl⟩ := List.mem_map.1 mem
    exact ⟨rfl, rfl⟩
  | persistentVolumeClaim =>
    cases etcd with
    | hostPath => cases mem
    | persistentVolume =>
      obtain ⟨node, -, rfl⟩ := List.mem_map.1 mem
      exact ⟨rfl, rfl⟩
  | deployment =>
    obtain ⟨⟨role, node⟩, -, rfl⟩ := List.mem_map.1 mem
    exact ⟨rfl, rfl⟩
  | ingress =>
    rcases List.mem_cons.1 mem with rfl | mem
    · exact ⟨rfl, rfl⟩
    · rw [List.mem_singleton.1 mem]
      exact ⟨rfl, rfl⟩
  | service =>
    rcases List.mem_cons.1 mem with rfl | mem
    · exact ⟨rfl, rfl⟩
    · rw [List.mem_singleton.1 mem]
      exact ⟨rfl, rfl⟩
  | pod => cases mem

/-- What is the same in two deployments between which the comparison finds no difference. -/
theorem unmodified_iff {first second : Blueprint} {old etcd : EtcdStorage} {role : Role}
    {node other : Node} : (first.deployment old role node).isModified
        (second.deployment etcd role other) = false <->
      first.cluster.version = second.cluster.version ∧
        checksum (first.configData role node) = checksum (second.configData role other) ∧
        first.container role node = second.container role other := by
  have versions : Deployment.version (first.deployment old role node) =
        Deployment.version (second.deployment etcd role other) <->
      first.cluster.version = second.cluster.version := Option.some_inj
  have checksums : Deployment.checksum (first.deployment old role node) =
        Deployment.checksum (second.deployment etcd role other) <->
      checksum (first.configData role node) = checksum (second.configData role other) :=
    Option.some_inj
  have containers : Deployment.containersDiffer [first.container role node]
        [second.container role other] = false <->
      first.container role node = second.container role other := by
    simp [Deployment.containersDiffer, Deployment.container?, container, List.eraseDups_cons,
      and_comm]
  have one : Deployment.replicas (first.deployment old role node) =
      Deployment.replicas (second.deployment etcd role other) := rfl
  show Deployment.isModified _ _ = false <-> _
  rw [← versions, ← checksums, ← containers, Deployment.isModified, one, bne_self_eq_false,
    Bool.or_false, Bool.or_eq_false_iff, Bool.or_eq_false_iff, bne_eq_false_iff_eq,
    bne_eq_false_iff_eq, and_assoc]
  rfl

section

variable (b : Blueprint) (etcd : EtcdStorage) (valid : b.cluster.isValid = true)

include valid

/-- What a valid cluster wants is in slots apart. -/
theorem apart_desired {kind : Kind} : Apart (b.desired etcd kind) := by
  have nodes := Cluster.nodes_of_valid valid
  cases kind with
  | «namespace» => exact List.nodup_singleton _
  | serviceAccount => exact List.nodup_singleton _
  | clusterRoleBinding =>
    refine apart_pair fun same => ?_
    have lengths : b.cluster.id.length = (b.cluster.id ++ "-psp").length :=
      congrArg String.length same
    have suffix : "-psp".length = 4 := rfl
    rw [String.length_append, suffix] at lengths
    omega
  | configMap =>
    refine apart_map nodes ?_
    rintro ⟨role, node⟩ ⟨other, second⟩ same
    exact nodeName_injective (congrArg Slot.name same)
  | persistentVolumeClaim =>
    cases etcd with
    | hostPath => exact List.nodup_nil
    | persistentVolume =>
      have masters : (b.cluster.topology.masters.map Node.id).Nodup := by
        rw [Cluster.nodes, List.map_append, List.map_map] at nodes
        exact nodes.of_append_left
      refine apart_map masters ?_
      intro node second same
      exact etcdClaimName_injective (congrArg Slot.name same)
  | deployment =>
    refine apart_map nodes ?_
    rintro ⟨role, node⟩ ⟨other, second⟩ same
    exact nodeName_injective (congrArg Slot.name same)
  | ingress =>
    have differ : ("etcd" : String) ≠ "api" := by decide
    exact apart_pair differ
  | service =>
    have differ : Role.master.name ≠ Role.worker.name := by decide
    exact apart_pair differ
  | pod => exact List.nodup_nil

/-- The objects that a valid cluster needs of a kind. -/
theorem target_desired (kind : Kind) :
    Target b.cluster.id (b.Sees etcd kind) (b.desired etcd kind) :=
  ⟨fun _ mem => b.belongs_desired etcd mem, fun _ mem => b.sees_desired etcd mem,
    b.apart_desired etcd valid, fun _ mem => (b.metadata_desired etcd mem).1,
    fun _ mem => (b.metadata_desired etcd mem).2⟩

end

end Blueprint

end GuestFleet
