import GuestFleet.Manifest.Access
import GuestFleet.Manifest.Network
import GuestFleet.Manifest.Workload
import GuestFleet.Proofs.Store.Ledger
import GuestFleet.Resource.Workload

/-!
# The territory of a cluster

The slots that the objects of a cluster can be in, by the cluster's id alone, and what is
common to all objects that were ever made for a cluster with that id. Role bindings are in
no namespace, so that ids that end alike can meet there.
-/

namespace GuestFleet

open Kube (Key Kind Object StringMap)
open Store (Slot slotOf)

/-- The slots that objects of a cluster can be in. -/
def Territory (id : String) (kind : Kind) (slot : Slot) : Prop :=
  match kind with
  | .namespace => slot = ⟨"", id⟩
  | .clusterRoleBinding => slot = ⟨"", id⟩ ∨ slot = ⟨"", id ++ "-psp"⟩
  | .pod => False
  | _ => slot.space = id

/-- The only slots of two territories are those of role bindings, where the name of one
cluster's second binding is the id of the other. -/
theorem territories_meet {a b : String} (different : a ≠ b) {kind : Kind} {slot : Slot}
    (inFirst : Territory a kind slot) (inSecond : Territory b kind slot) :
    kind = .clusterRoleBinding ∧
      (b = a ++ "-psp" ∧ slot = ⟨"", b⟩ ∨ a = b ++ "-psp" ∧ slot = ⟨"", a⟩) := by
  cases kind with
  | «namespace» =>
    obtain rfl : slot = ⟨"", a⟩ := inFirst
    exact absurd (Slot.mk.inj inSecond).2 different
  | clusterRoleBinding =>
    refine ⟨rfl, ?_⟩
    rcases inFirst with rfl | rfl
    · rcases inSecond with same | same
      · exact absurd (Slot.mk.inj same).2 different
      · exact .inr ⟨(Slot.mk.inj same).2, rfl⟩
    · rcases inSecond with same | same
      · exact .inl ⟨(Slot.mk.inj same).2.symm, same⟩
      · have chars := congrArg String.toList (Slot.mk.inj same).2
        rw [String.toList_append, String.toList_append] at chars
        exact absurd (String.toList_injective (List.append_cancel_right chars)) different
  | pod => exact inFirst.elim
  | serviceAccount => exact absurd (inFirst.symm.trans inSecond) different
  | configMap => exact absurd (inFirst.symm.trans inSecond) different
  | persistentVolumeClaim => exact absurd (inFirst.symm.trans inSecond) different
  | deployment => exact absurd (inFirst.symm.trans inSecond) different
  | ingress => exact absurd (inFirst.symm.trans inSecond) different
  | service => exact absurd (inFirst.symm.trans inSecond) different

/-! ## Objects of a cluster -/

/-- The labels name the cluster and a role. -/
def Labelled (id : String) (role : Role) (labels : Option StringMap) : Prop :=
  StringMap.find (labels.getD []) clusterLabel = some id ∧
    StringMap.find (labels.getD []) appLabel = some role.name

/-- What every object has that was made for a cluster with an id, whatever else the cluster
was like. -/
structure Belongs (id : String) {kind : Kind} (object : Object kind) : Prop where
  space : object.metadata.namespaceName = if kind.isNamespaced then some id else none
  slot : Territory id kind (slotOf object)
  /-- Objects that are found by labels carry them. -/
  node : kind = .configMap ∨ kind = .deployment ->
    ∃ role, Labelled id role object.metadata.labels
  claim : kind = .persistentVolumeClaim ->
    Labelled id .master object.metadata.labels ∧
      (etcdClaimStart id).toList.isPrefixOf object.name.toList = true

/-- To belong to a cluster is a matter of namespace, name and labels. -/
theorem Belongs.congr {id : String} {kind : Kind} {object other : Object kind}
    (belongs : Belongs id object)
    (space : other.metadata.namespaceName = object.metadata.namespaceName)
    (name : other.metadata.name = object.metadata.name)
    (labels : other.metadata.labels = object.metadata.labels) : Belongs id other := by
  have names : other.name = object.name := by rw [Object.name, Object.name, name]
  refine ⟨?_, ?_, ?_, ?_⟩
  · rw [space]
    exact belongs.space
  · rw [slotOf, space, names]
    exact belongs.slot
  · rw [labels]
    exact belongs.node
  · rw [labels, names]
    exact belongs.claim

/-- The objects in a namespace that belong to a cluster and are not found by labels. -/
theorem belongs_of_space {id : String} {kind : Kind} {object : Object kind}
    (isMerged : kind = .serviceAccount ∨ kind = .ingress ∨ kind = .service)
    (space : object.metadata.namespaceName = some id) : Belongs id object := by
  refine ⟨?_, ?_, ?_, ?_⟩
  · rcases isMerged with rfl | rfl | rfl <;> exact space
  · have within : (slotOf object).space = id := by
      rw [slotOf, space]
      rfl
    rcases isMerged with rfl | rfl | rfl <;> exact within
  · rcases isMerged with rfl | rfl | rfl <;> rintro (same | same) <;> cases same
  · rcases isMerged with rfl | rfl | rfl <;> intro same <;> cases same

/-! ## Desired objects -/

namespace Blueprint

/-- The objects of a kind that a cluster needs. -/
def desired (b : Blueprint) (etcd : EtcdStorage) : (kind : Kind) -> List (Object kind)
  | .namespace => [b.namespaceObject]
  | .serviceAccount => [b.serviceAccount]
  | .clusterRoleBinding => b.roleBindings
  | .configMap => b.configMaps
  | .persistentVolumeClaim =>
    match etcd with
    | .hostPath => []
    | .persistentVolume => b.etcdClaims
  | .deployment => b.deployments etcd
  | .ingress => b.ingresses
  | .service => b.services
  | .pod => []

/-- The node labels name the cluster and the role. -/
theorem labelled_nodeLabels (cluster : Cluster) (role : Role) (node : Node) :
    Labelled cluster.id role (some (cluster.nodeLabels role node)) := by
  constructor
  · rfl
  · rfl

/-- The config map of a node belongs to its cluster. -/
theorem belongs_configMap (b : Blueprint) (role : Role) (node : Node) :
    Belongs b.cluster.id (b.configMap role node) := by
  refine ⟨rfl, rfl, ?_, ?_⟩
  · intro _
    exact ⟨role, labelled_nodeLabels b.cluster role node⟩
  · intro same
    cases same

/-- The deployment of a node belongs to its cluster. -/
theorem belongs_deployment (b : Blueprint) (etcd : EtcdStorage) (role : Role) (node : Node) :
    Belongs b.cluster.id (b.deployment etcd role node) := by
  refine ⟨rfl, rfl, ?_, ?_⟩
  · intro _
    exact ⟨role, labelled_nodeLabels b.cluster role node⟩
  · intro same
    cases same

/-- The claim of a master belongs to its cluster. -/
theorem belongs_etcdClaim (b : Blueprint) (node : Node) :
    Belongs b.cluster.id (b.etcdClaim node) := by
  refine ⟨rfl, rfl, ?_, ?_⟩
  · rintro (same | same) <;> cases same
  · intro _
    refine ⟨labelled_nodeLabels b.cluster .master node, ?_⟩
    have name : (b.etcdClaim node).name = etcdClaimStart b.cluster.id ++ node.id := rfl
    rw [name, String.toList_append, List.isPrefixOf_iff_prefix]
    exact List.prefix_append _ _

/-- The role bindings belong to their cluster. -/
theorem belongs_roleBinding (b : Blueprint) {name : String} (role : String)
    (isName : name = b.cluster.roleBindingName ∨ name = b.cluster.pspRoleBindingName) :
    Belongs b.cluster.id (b.roleBinding name role) := by
  refine ⟨rfl, ?_, ?_, ?_⟩
  · rcases isName with rfl | rfl
    · exact .inl rfl
    · exact .inr rfl
  · rintro (same | same) <;> cases same
  · intro same
    cases same

/-- The namespace belongs to its cluster. -/
theorem belongs_namespaceObject (b : Blueprint) : Belongs b.cluster.id b.namespaceObject := by
  refine ⟨rfl, rfl, ?_, ?_⟩
  · rintro (same | same) <;> cases same
  · intro same
    cases same

/-- Every object that a cluster needs belongs to it. -/
theorem belongs_desired (b : Blueprint) (etcd : EtcdStorage) {kind : Kind} {object : Object kind}
    (mem : object ∈ b.desired etcd kind) : Belongs b.cluster.id object := by
  cases kind with
  | «namespace» =>
    rw [List.mem_singleton.1 mem]
    exact b.belongs_namespaceObject
  | serviceAccount =>
    rw [List.mem_singleton.1 mem]
    exact belongs_of_space (.inl rfl) rfl
  | clusterRoleBinding =>
    rcases List.mem_cons.1 mem with rfl | mem
    · exact b.belongs_roleBinding _ (.inl rfl)
    · rw [List.mem_singleton.1 mem]
      exact b.belongs_roleBinding _ (.inr rfl)
  | configMap =>
    obtain ⟨⟨role, node⟩, -, rfl⟩ := List.mem_map.1 mem
    exact b.belongs_configMap role node
  | persistentVolumeClaim =>
    cases etcd with
    | hostPath => cases mem
    | persistentVolume =>
      obtain ⟨node, -, rfl⟩ := List.mem_map.1 mem
      exact b.belongs_etcdClaim node
  | deployment =>
    obtain ⟨⟨role, node⟩, -, rfl⟩ := List.mem_map.1 mem
    exact b.belongs_deployment etcd role node
  | ingress =>
    rcases List.mem_cons.1 mem with rfl | mem
    · exact belongs_of_space (.inr (.inl rfl)) rfl
    · rw [List.mem_singleton.1 mem]
      exact belongs_of_space (.inr (.inl rfl)) rfl
  | service =>
    rcases List.mem_cons.1 mem with rfl | mem
    · exact belongs_of_space (.inr (.inr rfl)) rfl
    · rw [List.mem_singleton.1 mem]
      exact belongs_of_space (.inr (.inr rfl)) rfl
  | pod => cases mem

end Blueprint

end GuestFleet
