import GuestFleet.Proofs.Change.Stamped
import GuestFleet.Proofs.Cluster.Desired
import GuestFleet.Proofs.Manifest.Environment

/-!
# Drafts of a cluster

The ingresses and services of a cluster are drawn up so that they are read back from their
snapshots, which therefore tell them apart. What two clusters with one id need in a slot is the
same object when the customers are the same and the comparison finds no difference.
-/

namespace GuestFleet

open Kube (Kind Metadata Object StringMap)
open Store (slotOf)

namespace Kube.Object

variable {kind : Kind}

/-- Drafts with one snapshot are the same. -/
theorem Draft.eq_of_snapshotText {first second : Object kind} (one : first.Draft)
    (other : second.Draft) (same : first.snapshotText = second.snapshotText) : first = second := by
  rw [one.snapshotText_eq, other.snapshotText_eq] at same
  have parsed := one.exact.parse
  rw [same, other.exact.parse] at parsed
  have read := one.exact.read
  rw [← Except.ok.inj parsed, other.exact.read] at read
  exact (Except.ok.inj read).symm

/-- The object as the operator writes it: those that are merged carry a snapshot. -/
def recorded : {kind : Kind} -> Object kind -> Object kind
  | .ingress, object => object.stamped
  | .service, object => object.stamped
  | .namespace, object => object
  | .serviceAccount, object => object
  | .clusterRoleBinding, object => object
  | .configMap, object => object
  | .persistentVolumeClaim, object => object
  | .deployment, object => object
  | .pod, object => object

end Kube.Object

/-! ## Labels -/

namespace Cluster

/-- The labels of a cluster are in order. -/
theorem sorted_labels (cluster : Cluster) (app : String) : Entries.Sorted (cluster.labels app) := by
  show List.Pairwise (· < ·) [appLabel, clusterLabel, customerLabel]
  decide

/-- With one id the labels of a node differ only by the customer. -/
theorem nodeLabels_eq_iff {first second : Cluster} (sameId : first.id = second.id) (role : Role)
    {node other : Node} (sameNode : node.id = other.id) :
    first.nodeLabels role node = second.nodeLabels role other <->
      first.topology.customerId = second.topology.customerId := by
  simp [nodeLabels, labels, sameId, sameNode]

end Cluster

/-- The name of a node's objects tells the role of the node, too. -/
theorem nodeName_role {first second : Role} {clusterId a b : String}
    (same : nodeName first clusterId a = nodeName second clusterId b) : first = second := by
  have chars := congrArg (fun text => text.toList.head?) same
  simp only [nodeName, String.toList_append] at chars
  cases first <;> cases second
  · rfl
  · cases chars
  · cases chars
  · rfl

/-- In one cluster the name of a node's objects tells the node. -/
theorem nodeName_node {first second : Role} {id other a b : String} (sameId : id = other)
    (same : nodeName first id a = nodeName second other b) : first = second ∧ a = b := by
  subst sameId
  obtain rfl := nodeName_role same
  exact ⟨rfl, nodeName_injective same⟩

namespace Blueprint

/-! ## Merged objects -/

/-- The metadata of what is in a namespace is proper. -/
theorem proper_namespaced (b : Blueprint) (name : String) {labels : StringMap}
    (sorted : Entries.Sorted labels) : (b.namespaced name labels).Proper where
  annotations _ none := by cases none
  labels _ held := by
    cases held
    exact sorted
  grace _ none := by cases none
  generation _ none := by cases none
  uncreated := rfl
  undeleted := rfl

/-- Every ingress of a cluster is a draft. -/
theorem draft_ingress (b : Blueprint) (name host : String) {port : Int}
    (isPort : Json.Codec.IsInt32 port) : (b.ingress name host port).Draft where
  proper := by
    have proper := b.proper_namespaced name (b.cluster.sorted_labels Role.master.name)
    have sorted : Entries.Sorted passthroughAnnotations := List.pairwise_singleton _ _
    exact proper.noted (fun entries held => Option.some.inj held ▸ sorted) none
  restores := by
    refine ⟨9, by decide, by decide, Kube.IngressBody.restores ?_⟩
    rintro spec held rules isRules rule memRule http isHttp path memPath
    cases held
    cases isRules
    obtain rfl := List.mem_singleton.1 memRule
    cases isHttp
    obtain rfl := List.mem_singleton.1 memPath
    rintro service isService port isRef value isValue
    cases isService
    cases isRef
    cases isValue
    exact isPort
  unversioned := rfl
  unsnapped := rfl

/-- A port of a service is proper when its numbers fit. -/
theorem proper_servicePort (name : String) {port target : Int}
    (isPort : Json.Codec.IsInt32 port) (isTarget : Json.Codec.IsInt32 target) :
    (servicePort name port target).Proper where
  node _ none := by cases none
  number := isPort
  target _ held := by
    cases held
    exact isTarget

/-- Every service of a cluster is a draft. -/
theorem draft_service (b : Blueprint) (role : Role) (type : String)
    {ports : List Kube.ServicePort} (proper : ∀ port ∈ ports, port.Proper) :
    (b.service role type ports).Draft where
  proper := b.proper_namespaced role.name (b.cluster.sorted_labels role.name)
  restores := by
    refine ⟨3, by decide, by decide, Kube.ServiceBody.restores ?_⟩
    intro spec held
    cases held
    refine ⟨fun held same => ?_, fun entries same => ?_⟩
    · cases same
      exact proper
    · cases same
      show List.Pairwise (· < ·) [appLabel, clusterLabel]
      decide
  unversioned := rfl
  unsnapped := rfl

/-- What is merged is drawn up as a draft. -/
theorem draft_desired (b : Blueprint) (etcd : EtcdStorage) {kind : Kind}
    (isMerged : kind = .ingress ∨ kind = .service) {object : Object kind}
    (mem : object ∈ b.desired etcd kind) : object.Draft := by
  rcases isMerged with rfl | rfl
  · rcases List.mem_cons.1 mem with rfl | mem
    · exact b.draft_ingress "etcd" b.etcdDomain (by decide)
    · rw [List.mem_singleton.1 mem]
      exact b.draft_ingress "api" b.apiDomain (by decide)
  · have ports (first second : Kube.ServicePort) (one : first.Proper) (other : second.Proper) :
        ∀ port ∈ [first, second], port.Proper := by
      intro port mem
      rcases List.mem_cons.1 mem with rfl | mem
      · exact one
      · rwa [List.mem_singleton.1 mem]
    rcases List.mem_cons.1 mem with rfl | mem
    · exact b.draft_service .master "ClusterIP" (ports _ _
        (proper_servicePort "api" (by decide) (by decide))
        (proper_servicePort "etcd" (by decide) (by decide)))
    · rw [List.mem_singleton.1 mem]
      exact b.draft_service .worker "NodePort" (ports _ _
        (proper_servicePort "http" (by decide) (by decide))
        (proper_servicePort "https" (by decide) (by decide)))

/-- Merged objects are told apart by their snapshots. -/
theorem eq_of_snapshots {first second : Blueprint} {old etcd : EtcdStorage} {kind : Kind}
    (isMerged : kind = .ingress ∨ kind = .service) {one other : Object kind}
    (mem : one ∈ first.desired old kind) (memOther : other ∈ second.desired etcd kind)
    (same : one.recorded.isModified other = false) : one = other := by
  have unchanged : one.stamped.needsUpdate other = false := by
    rcases isMerged with rfl | rfl
    · exact same
    · exact same
  refine (first.draft_desired old isMerged mem).eq_of_snapshotText
    (second.draft_desired etcd isMerged memOther) ?_
  have snapshots := bne_eq_false_iff_eq.1 unchanged
  rw [Object.stamped, Object.setLastApplied_lastApplied] at snapshots
  exact Option.some.inj snapshots

/-! ## What the comparison tells apart -/

/-- For one node the volumes differ only by the directory of the host with the data of etcd, which
is where masters without a claim keep it. -/
theorem volumes_eq_iff {first second : Blueprint} (sameId : first.cluster.id = second.cluster.id)
    (etcd : EtcdStorage) (role : Role) {node other : Node} (sameNode : node.id = other.id) :
    first.volumes etcd role node = second.volumes etcd role other <->
      (role = .master -> etcd = .hostPath ->
        first.settings.etcdHostPath = second.settings.etcdHostPath) := by
  cases role with
  | worker => simp only [volumes, sameId, sameNode, reduceCtorEq, false_implies]
  | master =>
    cases etcd with
    | persistentVolume =>
      simp only [volumes, etcdVolumeOf, sameId, sameNode, reduceCtorEq, false_implies, implies_true]
    | hostPath =>
      simp [volumes, etcdVolumeOf, sameId, sameNode, String.append_left_inj]

/-- A deployment is determined by what deployments are compared by, by the customer and by the
volumes. -/
theorem deployment_congr {first second : Blueprint} (sameId : first.cluster.id = second.cluster.id)
    (sameCustomer : first.cluster.topology.customerId = second.cluster.topology.customerId)
    {old etcd : EtcdStorage} {role : Role} {node other : Node} (sameNode : node.id = other.id)
    (sameVolumes : first.volumes old role node = second.volumes etcd role other)
    (same : (first.deployment old role node).isModified (second.deployment etcd role other) =
      false) :
    first.deployment old role node = second.deployment etcd role other := by
  obtain ⟨sameVersion, sameChecksum, sameContainer⟩ := unmodified_iff.1 same
  have sameLabels := (Cluster.nodeLabels_eq_iff sameId role sameNode).2 sameCustomer
  simp only [deployment, podAnnotations, namespaced, Cluster.namespaceName,
    Cluster.versionAnnotations, Cluster.serviceAccountName, sameId, sameNode, sameVersion,
    sameChecksum, sameContainer, sameLabels, sameVolumes]

/-- Two clusters have the same id and belong to the same customer of one operator. -/
structure Kindred (first second : Blueprint) : Prop where
  settings : first.settings = second.settings
  id : first.cluster.id = second.cluster.id
  customer : first.cluster.topology.customerId = second.cluster.topology.customerId

namespace Kindred

variable {first second : Blueprint} (kindred : first.Kindred second)

include kindred

/-- The same metadata is made for both clusters. -/
theorem namespaced_eq (name : String) (labels : StringMap) :
    first.namespaced name labels = second.namespaced name labels := by
  rw [namespaced, namespaced, Cluster.namespaceName, Cluster.namespaceName, kindred.id]

/-- The same labels are made for both clusters. -/
theorem labels_eq (app : String) : first.cluster.labels app = second.cluster.labels app := by
  rw [Cluster.labels, Cluster.labels, kindred.id, kindred.customer]

/-- The same labels are made for both nodes. -/
theorem nodeLabels_eq (role : Role) {node other : Node} (sameNode : node.id = other.id) :
    first.cluster.nodeLabels role node = second.cluster.nodeLabels role other :=
  (Cluster.nodeLabels_eq_iff kindred.id role sameNode).2 kindred.customer

/-- The same namespace is made for both clusters. -/
theorem namespaceObject_eq : first.namespaceObject = second.namespaceObject := by
  rw [namespaceObject, namespaceObject, Cluster.namespaceName, Cluster.namespaceName, kindred.id,
    kindred.labels_eq]

/-- The same service account is made for both clusters. -/
theorem serviceAccount_eq : first.serviceAccount = second.serviceAccount := by
  rw [serviceAccount, serviceAccount, Cluster.serviceAccountName, Cluster.serviceAccountName,
    kindred.id, kindred.labels_eq, kindred.namespaced_eq]

/-- The same role bindings are made for both clusters. -/
theorem roleBindings_eq : first.roleBindings = second.roleBindings := by
  have subjects : first.subject = second.subject := by
    rw [subject, subject, Cluster.serviceAccountName, Cluster.serviceAccountName,
      Cluster.namespaceName, Cluster.namespaceName, kindred.id]
  simp only [roleBindings, roleBinding, Cluster.roleBindingName, Cluster.pspRoleBindingName,
    kindred.id, kindred.settings, subjects, kindred.labels_eq]

/-- The same claim is made for both nodes. -/
theorem etcdClaim_eq {node other : Node} (sameNode : node.id = other.id) :
    first.etcdClaim node = second.etcdClaim other := by
  rw [etcdClaim, etcdClaim, kindred.id, kindred.settings, sameNode,
    kindred.nodeLabels_eq .master sameNode, kindred.namespaced_eq]

/-- The same config map is made for both nodes from the same data. -/
theorem configMap_eq {role : Role} {node other : Node} (sameNode : node.id = other.id)
    (sameData : first.configData role node = second.configData role other) :
    first.configMap role node = second.configMap role other := by
  rw [configMap, configMap, kindred.id, sameNode, sameData, kindred.nodeLabels_eq role sameNode,
    kindred.namespaced_eq]

/-- A deployment is determined by what deployments are compared by. -/
theorem deployment_eq {old etcd : EtcdStorage}
    (bundled : first.cluster.version = second.cluster.version -> old = etcd) {role : Role}
    {node other : Node} (sameNode : node.id = other.id)
    (same : (first.deployment old role node).isModified (second.deployment etcd role other) =
      false) :
    first.deployment old role node = second.deployment etcd role other := by
  obtain rfl := bundled (unmodified_iff.1 same).1
  have sameVolumes := (volumes_eq_iff kindred.id old role sameNode).2
    fun _ _ => congrArg ManifestSettings.etcdHostPath kindred.settings
  exact deployment_congr kindred.id kindred.customer sameNode sameVolumes same

/-- What two clusters want in one slot is the same object when the comparison finds no
difference. -/
theorem eq_of_unmodified (valid : second.cluster.isValid = true) {old etcd : EtcdStorage}
    (bundled : first.cluster.version = second.cluster.version -> old = etcd) {kind : Kind}
    {one other : Object kind} (mem : one ∈ first.desired old kind)
    (memOther : other ∈ second.desired etcd kind) (slot : slotOf one = slotOf other)
    (same : one.recorded.isModified other = false) : one = other := by
  have names : one.name = other.name := congrArg Store.Slot.name slot
  cases kind with
  | «namespace» =>
    rw [List.mem_singleton.1 mem, List.mem_singleton.1 memOther]
    exact kindred.namespaceObject_eq
  | serviceAccount =>
    rw [List.mem_singleton.1 mem, List.mem_singleton.1 memOther]
    exact kindred.serviceAccount_eq
  | clusterRoleBinding =>
    have among : one ∈ second.roleBindings := kindred.roleBindings_eq ▸ mem
    exact (second.apart_desired etcd valid).eq among memOther slot
  | configMap =>
    obtain ⟨⟨role, node⟩, -, rfl⟩ := List.mem_map.1 mem
    obtain ⟨⟨roleOther, nodeOther⟩, -, rfl⟩ := List.mem_map.1 memOther
    obtain ⟨rfl, sameNode⟩ := nodeName_node kindred.id names
    have data := bne_eq_false_iff_eq.1 same
    exact kindred.configMap_eq sameNode (Option.some.inj data)
  | persistentVolumeClaim =>
    cases old <;> cases etcd
    · cases mem
    · cases mem
    · cases memOther
    · obtain ⟨node, -, rfl⟩ := List.mem_map.1 mem
      obtain ⟨nodeOther, -, rfl⟩ := List.mem_map.1 memOther
      have sameName : etcdClaimName first.cluster.id node.id =
          etcdClaimName second.cluster.id nodeOther.id := names
      rw [kindred.id] at sameName
      exact kindred.etcdClaim_eq (etcdClaimName_injective sameName)
  | deployment =>
    obtain ⟨⟨role, node⟩, -, rfl⟩ := List.mem_map.1 mem
    obtain ⟨⟨roleOther, nodeOther⟩, -, rfl⟩ := List.mem_map.1 memOther
    obtain ⟨rfl, sameNode⟩ := nodeName_node kindred.id names
    exact kindred.deployment_eq bundled sameNode same
  | ingress => exact eq_of_snapshots (.inl rfl) mem memOther same
  | service => exact eq_of_snapshots (.inr rfl) mem memOther same
  | pod => cases mem

end Kindred

/-! ## What tells the customer -/

/-- Some node of both clusters is to be told different things, and yet the checksums agree. -/
def Collides (first second : Blueprint) : Prop :=
  ∃ (role : Role) (node other : Node), (role, node) ∈ first.cluster.nodes ∧
    (role, other) ∈ second.cluster.nodes ∧ node.id = other.id ∧
      first.configData role node ≠ second.configData role other ∧
      checksum (first.configData role node) = checksum (second.configData role other)

/-- The kinds whose objects hold all that the cluster says about them in what is compared. -/
def toldKinds : List Kind := [.configMap, .deployment, .ingress, .service]

/-- Whatever the customers, objects of these kinds in one slot are the same when the comparison
finds no difference, unless checksums collide. -/
theorem eq_of_told {first second : Blueprint} (settings : first.settings = second.settings)
    (sameId : first.cluster.id = second.cluster.id) (validFirst : first.cluster.isValid = true)
    (valid : second.cluster.isValid = true) {old etcd : EtcdStorage}
    (bundled : first.cluster.version = second.cluster.version -> old = etcd) {kind : Kind}
    (told : kind ∈ toldKinds) (apart : kind = .deployment -> ¬ first.Collides second)
    {one other : Object kind} (mem : one ∈ first.desired old kind)
    (memOther : other ∈ second.desired etcd kind) (slot : slotOf one = slotOf other)
    (same : one.recorded.isModified other = false) : one = other := by
  -- A node that is told the same in both clusters is told the same customer.
  have kindred {role : Role} {node nodeOther : Node}
      (isNode : (role, nodeOther) ∈ second.cluster.nodes) (sameNode : node.id = nodeOther.id)
      (sameData : first.configData role node = second.configData role nodeOther) :
      first.Kindred second :=
    ⟨settings, sameId, customer_of_environment validFirst valid sameId isNode sameNode
      (environment_of_configData sameId sameNode sameData)⟩
  have names : one.name = other.name := congrArg Store.Slot.name slot
  simp only [toldKinds, List.mem_cons, List.not_mem_nil, or_false] at told
  rcases told with rfl | rfl | rfl | rfl
  · obtain ⟨⟨role, node⟩, isNode, rfl⟩ := List.mem_map.1 mem
    obtain ⟨⟨roleOther, nodeOther⟩, isNodeOther, rfl⟩ := List.mem_map.1 memOther
    obtain ⟨rfl, sameNode⟩ := nodeName_node sameId names
    have sameData := Option.some.inj (bne_eq_false_iff_eq.1 same)
    exact (kindred isNodeOther sameNode sameData).configMap_eq sameNode sameData
  · obtain ⟨⟨role, node⟩, isNode, rfl⟩ := List.mem_map.1 mem
    obtain ⟨⟨roleOther, nodeOther⟩, isNodeOther, rfl⟩ := List.mem_map.1 memOther
    obtain ⟨rfl, sameNode⟩ := nodeName_node sameId names
    have sameChecksum := (unmodified_iff.1 same).2.1
    have sameData : first.configData role node = second.configData role nodeOther := by
      by_contra differ
      exact apart rfl ⟨role, node, nodeOther, isNode, isNodeOther, sameNode, differ, sameChecksum⟩
    exact (kindred isNodeOther sameNode sameData).deployment_eq bundled sameNode same
  · exact eq_of_snapshots (.inl rfl) mem memOther same
  · exact eq_of_snapshots (.inr rfl) mem memOther same


/-! ## What is kept -/

/-- The kinds whose objects hold nothing but the id of the cluster in what is compared. -/
def lastingKinds : List Kind := [.namespace, .serviceAccount, .clusterRoleBinding]

/-- Whatever the clusters, there is an object of these kinds in the same slot, between which and the
one that is wanted the comparison finds no difference. -/
theorem unmodified_of_lasting {first second : Blueprint}
    (settings : first.settings = second.settings) (sameId : first.cluster.id = second.cluster.id)
    (old etcd : EtcdStorage) {kind : Kind} (lasting : kind ∈ lastingKinds) {object : Object kind}
    (mem : object ∈ second.desired etcd kind) :
    ∃ earlier ∈ first.desired old kind, slotOf earlier = slotOf object ∧
      earlier.recorded.isModified object = false := by
  simp only [lastingKinds, List.mem_cons, List.not_mem_nil, or_false] at lasting
  rcases lasting with rfl | rfl | rfl
  · rw [List.mem_singleton.1 mem]
    exact ⟨first.namespaceObject, List.mem_singleton_self _,
      congrArg (Store.Slot.make none) sameId, rfl⟩
  · rw [List.mem_singleton.1 mem]
    exact ⟨first.serviceAccount, List.mem_singleton_self _,
      congrArg (fun id => Store.Slot.make (some id) id) sameId, rfl⟩
  · have subjects : first.subject = second.subject := by
      simp only [subject, Cluster.serviceAccountName, Cluster.namespaceName, sameId]
    have unmodified (name role : String) :
        (first.roleBinding name role).recorded.isModified (second.roleBinding name role) =
          false := by
      simp only [roleBinding, Object.recorded, Object.isModified, subjects, bne_self_eq_false,
        Bool.or_false]
    have general : second.roleBinding second.cluster.roleBindingName second.settings.clusterRole =
        second.roleBinding first.cluster.roleBindingName first.settings.clusterRole := by
      rw [Cluster.roleBindingName, Cluster.roleBindingName, sameId, settings]
    have policy : second.roleBinding second.cluster.pspRoleBindingName
        second.settings.pspClusterRole =
          second.roleBinding first.cluster.pspRoleBindingName first.settings.pspClusterRole := by
      rw [Cluster.pspRoleBindingName, Cluster.pspRoleBindingName, sameId, settings]
    rcases List.mem_cons.1 mem with rfl | mem
    · rw [general]
      exact ⟨_, List.mem_cons_self, rfl, unmodified _ _⟩
    · rw [List.mem_singleton.1 mem, policy]
      exact ⟨_, List.mem_cons_of_mem _ (List.mem_singleton_self _), rfl, unmodified _ _⟩

end Blueprint

end GuestFleet
