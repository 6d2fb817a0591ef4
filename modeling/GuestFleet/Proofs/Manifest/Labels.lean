import GuestFleet.Proofs.Cluster.Desired

/-!
# Labels that the API server accepts

The values of labels on the objects of a cluster, and of the selectors in them, come from a few
words, from ids and from the customer. Ids of valid clusters are accepted as such values. What may
stand in a customer's id is not checked, so that every object of a valid cluster may be refused.
-/

namespace GuestFleet

open Kube (Kind Object StringMap)

/-! ## Values -/

/-- A character that may stand within the value of a label. -/
def isLabelChar (c : Char) : Bool := c.isAlphanum || c == '-' || c == '_' || c == '.'

/-- The API server takes the text for the value of a label: it has at most 63 bytes, and begins and
ends with an ASCII letter or digit unless it is empty. -/
def isLabelValue (text : String) : Bool :=
  decide (text.utf8ByteSize ≤ 63) &&
    match text.toList with
    | [] => true
    | first :: rest =>
      first.isAlphanum && (first :: rest).all isLabelChar &&
        ((first :: rest).getLast?.getD '-').isAlphanum

/-- What may end a name may end the value of a label. -/
theorem isAlphanum_of_isNameEnd {c : Char} (isEnd : isNameEnd c = true) : c.isAlphanum = true := by
  rw [isNameEnd, Bool.or_eq_true, Bool.and_eq_true, decide_eq_true_eq, decide_eq_true_eq] at isEnd
  rcases isEnd with ⟨low, high⟩ | isDigit
  · have isLower : c.isLower = true :=
      Bool.and_eq_true_iff.2 ⟨decide_eq_true low, decide_eq_true high⟩
    have isAlpha : c.isAlpha = true := Bool.or_eq_true_iff.2 (.inr isLower)
    exact Bool.or_eq_true_iff.2 (.inl isAlpha)
  · exact Bool.or_eq_true_iff.2 (.inr isDigit)

/-- An id that is valid is accepted. -/
theorem isLabelValue_of_checkId {id : String} (valid : checkId id = none) :
    isLabelValue id = true := by
  unfold checkId at valid
  split_ifs at valid with long name
  have short : id.utf8ByteSize ≤ 63 := by omega
  rw [isLabelValue, decide_eq_true short, Bool.true_and]
  cases text : id.toList with
  | nil => rfl
  | cons first rest =>
    rw [text, isName] at name
    simp only [Bool.and_eq_true] at name
    obtain ⟨⟨isFirst, within⟩, isLast⟩ := name
    have inside : (first :: rest).all isLabelChar = true := by
      refine List.all_eq_true.2 fun c mem => ?_
      rcases Bool.or_eq_true_iff.1 (List.all_eq_true.1 within c mem) with isEnd | hyphen
      · simp only [isLabelChar, isAlphanum_of_isNameEnd isEnd, Bool.true_or]
      · simp only [isLabelChar, hyphen, Bool.true_or, Bool.or_true]
    simp only [isAlphanum_of_isNameEnd isFirst, isAlphanum_of_isNameEnd isLast, inside,
      Bool.and_true]

/-- The names of roles are accepted. -/
theorem isLabelValue_role (role : Role) : isLabelValue role.name = true := by
  cases role <;> decide

/-! ## Labels in objects -/

namespace Kube.Object

/-- The labels in the body of an object: those that it selects pods by, and those that it gives to
pods. -/
def bodyLabels : {kind : Kind} -> Object kind -> List StringMap
  | .deployment, object => object.body.spec.toList.flatMap fun spec =>
      spec.selector.matchLabels.toList ++ (spec.template.metadata.bind (·.labels)).toList
  | .service, object => (object.body.spec.bind (·.selector)).toList
  | .namespace, _ => []
  | .serviceAccount, _ => []
  | .clusterRoleBinding, _ => []
  | .configMap, _ => []
  | .persistentVolumeClaim, _ => []
  | .ingress, _ => []
  | .pod, _ => []

/-- All labels in an object, with those in selectors. -/
def allLabels {kind : Kind} (object : Object kind) : StringMap :=
  (object.metadata.labels.toList ++ object.bodyLabels).flatten

end Kube.Object

namespace Blueprint

/-- The label that says who the customer is. -/
def customerEntry (b : Blueprint) : String × String :=
  (customerLabel, b.cluster.topology.customerId)

/-- Nothing that the labels say is refused, but for who the customer is. -/
def Passable (b : Blueprint) (labels : StringMap) : Prop :=
  ∀ label ∈ labels, isLabelValue label.2 = true ∨ label = b.customerEntry

section

variable {b : Blueprint}

/-- Passable labels stay so side by side. -/
theorem Passable.append {labels others : StringMap} (one : b.Passable labels)
    (other : b.Passable others) : b.Passable (labels ++ others) := by
  intro label mem
  rcases List.mem_append.1 mem with mem | mem
  · exact one label mem
  · exact other label mem

/-- An object with labels that name the customer, and with passable labels in its body. -/
theorem passable_object {kind : Kind} {object : Object kind} {labels : StringMap}
    (held : object.metadata.labels = some labels) (named : b.customerEntry ∈ labels)
    (passable : b.Passable labels) (inBody : ∀ inner ∈ object.bodyLabels, b.Passable inner) :
    b.customerEntry ∈ object.allLabels ∧ b.Passable object.allLabels := by
  rw [Object.allLabels, held, Option.toList_some, List.singleton_append, List.flatten_cons]
  refine ⟨List.mem_append_left _ named, passable.append fun label mem => ?_⟩
  obtain ⟨inner, among, isLabel⟩ := List.mem_flatten.1 mem
  exact inBody inner among label isLabel

variable (valid : b.cluster.isValid = true)

/-- The labels of a cluster say who the customer is. -/
theorem customerEntry_mem (app : String) : b.customerEntry ∈ b.cluster.labels app :=
  List.mem_cons_of_mem _ (List.mem_cons_of_mem _ (List.mem_singleton_self _))

/-- So do the labels of a node. -/
theorem customerEntry_mem_node (role : Role) (node : Node) :
    b.customerEntry ∈ b.cluster.nodeLabels role node :=
  List.mem_append_left _ (customerEntry_mem role.name)

include valid

/-- The labels of a cluster are passable. -/
theorem passable_labels {app : String} (isApp : isLabelValue app = true) :
    b.Passable (b.cluster.labels app) := by
  intro label mem
  simp only [Cluster.labels, List.mem_cons, List.not_mem_nil, or_false] at mem
  rcases mem with rfl | rfl | rfl
  · exact .inl isApp
  · exact .inl (isLabelValue_of_checkId (Cluster.checkId_of_valid valid))
  · exact .inr rfl

/-- The labels of a node are passable. -/
theorem passable_nodeLabels {role : Role} {node : Node} (mem : (role, node) ∈ b.cluster.nodes) :
    b.Passable (b.cluster.nodeLabels role node) := by
  refine (passable_labels valid (isLabelValue_role role)).append fun label isLabel => ?_
  rw [List.mem_singleton.1 isLabel]
  exact .inl (isLabelValue_of_checkId (Cluster.checkId_node valid mem))

/-- What the pods of a role are selected by is passable. -/
theorem passable_podSelector (role : Role) : b.Passable (b.podSelector role) := by
  intro label mem
  simp only [podSelector, List.mem_cons, List.not_mem_nil, or_false] at mem
  rcases mem with rfl | rfl
  · exact .inl (isLabelValue_role role)
  · exact .inl (isLabelValue_of_checkId (Cluster.checkId_of_valid valid))

/-- Every object of a valid cluster names the customer, and has no other label that may be
refused. -/
theorem passable_desired (etcd : EtcdStorage) {kind : Kind} {object : Object kind}
    (mem : object ∈ b.desired etcd kind) :
    b.customerEntry ∈ object.allLabels ∧ b.Passable object.allLabels := by
  have operated : b.Passable (b.cluster.labels operatorApp) := passable_labels valid (by decide)
  have serving (role : Role) : b.Passable (b.cluster.labels role.name) :=
    passable_labels valid (isLabelValue_role role)
  have selecting (role : Role) : ∀ inner ∈ [b.podSelector role], b.Passable inner :=
    List.forall_mem_singleton.2 (passable_podSelector valid role)
  cases kind with
  | «namespace» =>
    rw [List.mem_singleton.1 mem]
    exact passable_object rfl (customerEntry_mem _) operated (List.forall_mem_nil _)
  | serviceAccount =>
    rw [List.mem_singleton.1 mem]
    exact passable_object rfl (customerEntry_mem _) operated (List.forall_mem_nil _)
  | clusterRoleBinding =>
    rcases List.mem_cons.1 mem with rfl | mem
    · exact passable_object rfl (customerEntry_mem _) operated (List.forall_mem_nil _)
    · rw [List.mem_singleton.1 mem]
      exact passable_object rfl (customerEntry_mem _) operated (List.forall_mem_nil _)
  | configMap =>
    obtain ⟨⟨role, node⟩, isNode, rfl⟩ := List.mem_map.1 mem
    exact passable_object rfl (customerEntry_mem_node role node) (passable_nodeLabels valid isNode)
      (List.forall_mem_nil _)
  | persistentVolumeClaim =>
    cases etcd with
    | hostPath => cases mem
    | persistentVolume =>
      obtain ⟨node, isMaster, rfl⟩ := List.mem_map.1 mem
      have isNode : (Role.master, node) ∈ b.cluster.nodes :=
        List.mem_append_left _ (List.mem_map_of_mem isMaster)
      exact passable_object rfl (customerEntry_mem_node .master node)
        (passable_nodeLabels valid isNode) (List.forall_mem_nil _)
  | deployment =>
    obtain ⟨⟨role, node⟩, isNode, rfl⟩ := List.mem_map.1 mem
    have passable := passable_nodeLabels valid isNode
    -- Pods are selected by the labels that they get, which are those of the deployment itself.
    have inBody : ∀ inner ∈ [b.cluster.nodeLabels role node, b.cluster.nodeLabels role node],
        b.Passable inner := by
      intro inner isInner
      simp only [List.mem_cons, List.not_mem_nil, or_false, or_self] at isInner
      exact isInner ▸ passable
    exact passable_object rfl (customerEntry_mem_node role node) passable inBody
  | ingress =>
    rcases List.mem_cons.1 mem with rfl | mem
    · exact passable_object rfl (customerEntry_mem _) (serving .master) (List.forall_mem_nil _)
    · rw [List.mem_singleton.1 mem]
      exact passable_object rfl (customerEntry_mem _) (serving .master) (List.forall_mem_nil _)
  | service =>
    rcases List.mem_cons.1 mem with rfl | mem
    · exact passable_object rfl (customerEntry_mem _) (serving .master) (selecting .master)
    · rw [List.mem_singleton.1 mem]
      exact passable_object rfl (customerEntry_mem _) (serving .worker) (selecting .worker)
  | pod => cases mem

end

/-- The API server takes the labels of an object of a valid cluster if, and only if, it takes the
customer for the value of a label; it never refuses a label of another name. -/
theorem make_labels_accepted_iff {cluster : Cluster} (valid : cluster.isValid = true)
    (settings : ManifestSettings) (etcd : EtcdStorage) :
    ∃ b, make cluster settings = .ok b ∧ ∀ kind, ∀ object ∈ b.desired etcd kind,
      (∀ label ∈ object.allLabels, label.1 ≠ customerLabel -> isLabelValue label.2 = true) ∧
      ((∀ label ∈ object.allLabels, isLabelValue label.2 = true) <->
        isLabelValue cluster.topology.customerId = true) := by
  let b : Blueprint := ⟨cluster, settings⟩
  refine ⟨b, make_of_valid valid settings, fun kind object mem => ?_⟩
  obtain ⟨named, passable⟩ := passable_desired (b := b) valid etcd mem
  refine ⟨fun label isLabel other => ?_, fun accepted => accepted _ named, fun accepted => ?_⟩
  · refine (passable label isLabel).resolve_right fun isCustomer => other ?_
    rw [isCustomer]
    rfl
  · intro label isLabel
    rcases passable label isLabel with value | isCustomer
    · exact value
    · rw [isCustomer]
      exact accepted

/-- The small cluster under a customer whose id is more than one word. -/
def wordyCluster : Cluster :=
  { smallCluster "al9qy" with
    topology := { (smallCluster "al9qy").topology with customerId := "acme corp" } }

/-- A cluster is valid although the API server refuses its namespace. -/
theorem make_labels_refused :
    wordyCluster.isValid = true ∧ ∃ b, make wordyCluster {} = .ok b ∧
      b.namespaceObject ∈ b.desired .persistentVolume .namespace ∧
      ¬ ∀ label ∈ b.namespaceObject.allLabels, isLabelValue label.2 = true := by
  have valid : wordyCluster.isValid = true := by decide
  obtain ⟨b, made, accepted⟩ := make_labels_accepted_iff valid {} .persistentVolume
  have wanted : b.namespaceObject ∈ b.desired .persistentVolume .namespace :=
    List.mem_singleton_self _
  refine ⟨valid, b, made, wanted, fun all => ?_⟩
  have taken : isLabelValue wordyCluster.topology.customerId = true :=
    (accepted .namespace _ wanted).2.1 all
  exact absurd taken (by decide)

end Blueprint

end GuestFleet
