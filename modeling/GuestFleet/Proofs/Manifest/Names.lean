import GuestFleet.Proofs.Cluster.Desired

/-!
# Names that the API server accepts

The names of a cluster's objects are words and ids with hyphens between them. The ids of valid
clusters are labels in the sense of RFC 1123, and labels with a hyphen between them are a label
again. Ids are short enough for the longest names, and the names of a kind are different, because
the ids of nodes are.
-/

namespace GuestFleet

open Kube (Kind Object)

/-! ## Labels -/

/-- A character that a label can begin and end with: a lower case letter or a digit. -/
def IsLabelEnd (c : Char) : Prop := ('a' ≤ c ∧ c ≤ 'z') ∨ ('0' ≤ c ∧ c ≤ '9')

/-- The text is an RFC 1123 label, `[a-z0-9]([-a-z0-9]*[a-z0-9])?`. -/
inductive IsDnsLabel : List Char -> Prop
  | single {c : Char} (isEnd : IsLabelEnd c) : IsDnsLabel [c]
  | between {first last : Char} {middle : List Char} (isFirst : IsLabelEnd first)
      (inside : ∀ c ∈ middle, c = '-' ∨ IsLabelEnd c) (isLast : IsLabelEnd last) :
      IsDnsLabel (first :: (middle ++ [last]))

/-- The characters that are checked for are those that may end a label. -/
theorem isNameEnd_iff {c : Char} : isNameEnd c = true <-> IsLabelEnd c := by
  rw [isNameEnd, Char.isDigit, Bool.or_eq_true, Bool.and_eq_true, Bool.and_eq_true,
    decide_eq_true_eq, decide_eq_true_eq, decide_eq_true_eq, decide_eq_true_eq]
  exact Iff.rfl

/-- A label is a text of letters, digits and hyphens without a hyphen at an end. -/
theorem isDnsLabel_iff {text : List Char} : IsDnsLabel text <->
    (∃ first, text.head? = some first ∧ IsLabelEnd first) ∧
      (∃ last, text.getLast? = some last ∧ IsLabelEnd last) ∧
        ∀ c ∈ text, c = '-' ∨ IsLabelEnd c := by
  constructor
  · intro label
    cases label with
    | @single c isEnd =>
      exact ⟨⟨c, rfl, isEnd⟩, ⟨c, rfl, isEnd⟩, List.forall_mem_singleton.2 (.inr isEnd)⟩
    | @between first last middle isFirst inside isLast =>
      have ends : (first :: (middle ++ [last])).getLast? = some last := by
        rw [← List.cons_append, List.getLast?_concat]
      refine ⟨⟨first, rfl, isFirst⟩, ⟨last, ends, isLast⟩, fun c mem => ?_⟩
      rcases List.mem_cons.1 mem with rfl | mem
      · exact .inr isFirst
      · rcases List.mem_append.1 mem with mem | mem
        · exact inside c mem
        · exact .inr (List.mem_singleton.1 mem ▸ isLast)
  · rintro ⟨⟨first, begins, isFirst⟩, ⟨last, ends, isLast⟩, inside⟩
    obtain ⟨rest, rfl⟩ := List.head?_eq_some_iff.1 begins
    rcases List.eq_nil_or_concat rest with rfl | ⟨middle, c, rfl⟩
    · exact .single isFirst
    · rw [List.concat_eq_append] at ends inside ⊢
      rw [← List.cons_append, List.getLast?_concat] at ends
      obtain rfl : c = last := Option.some.inj ends
      refine .between isFirst (fun d mem => inside d ?_) isLast
      exact List.mem_cons_of_mem _ (List.mem_append_left _ mem)

/-- The check of names is the rule of labels. -/
theorem isName_iff {text : List Char} : isName text = true <-> IsDnsLabel text := by
  rw [isDnsLabel_iff]
  cases text with
  | nil => simp [isName]
  | cons first rest =>
    have ends : (first :: rest).getLast? = some ((first :: rest).getLast (by simp)) :=
      List.getLast?_eq_some_getLast _
    simp only [isName, Bool.and_eq_true, List.all_eq_true, Bool.or_eq_true, beq_iff_eq,
      isNameEnd_iff, ends, Option.getD_some, List.head?_cons, Option.some.injEq, exists_eq_left']
    constructor
    · rintro ⟨⟨isFirst, inside⟩, isLast⟩
      exact ⟨isFirst, isLast, fun c mem => (inside c mem).symm⟩
    · rintro ⟨isFirst, isLast, inside⟩
      exact ⟨⟨isFirst, fun c mem => (inside c mem).symm⟩, isLast⟩

/-- Labels with a hyphen between them are a label. -/
theorem IsDnsLabel.hyphen {one other : List Char} (first : IsDnsLabel one)
    (second : IsDnsLabel other) : IsDnsLabel (one ++ '-' :: other) := by
  rw [isDnsLabel_iff] at first second ⊢
  obtain ⟨⟨begin, begins, isBegin⟩, -, inOne⟩ := first
  obtain ⟨-, ⟨last, ends, isLast⟩, inOther⟩ := second
  refine ⟨⟨begin, ?_, isBegin⟩, ⟨last, ?_, isLast⟩, fun c mem => ?_⟩
  · rw [List.head?_append, begins, Option.some_or]
  · rw [List.getLast?_append, List.getLast?_cons, ends]
    rfl
  · rcases List.mem_append.1 mem with mem | mem
    · exact inOne c mem
    · rcases List.mem_cons.1 mem with rfl | mem
      · exact .inl rfl
      · exact inOther c mem

/-! ## Names -/

/-- The API server takes the text for the name of an object of any kind. -/
def IsObjectName (name : String) : Prop := IsDnsLabel name.toList ∧ name.length ≤ 63

/-- A word in names and an id with a hyphen between them. -/
theorem IsDnsLabel.hyphen_toList {one other : String} (first : IsDnsLabel one.toList)
    (second : IsDnsLabel other.toList) : IsDnsLabel (one ++ "-" ++ other).toList := by
  rw [String.toList_append, String.toList_append, List.append_assoc]
  exact first.hyphen second

/-- A hyphen between two texts adds one character. -/
theorem length_hyphen (one other : String) :
    (one ++ "-" ++ other).length = one.length + 1 + other.length := by
  rw [String.length_append, String.length_append]
  rfl

/-- Every character takes a byte or more. -/
theorem length_le_utf8ByteSize (text : String) : text.length ≤ text.utf8ByteSize := by
  rw [← String.utf8Len_toList, ← String.length_toList]
  generalize text.toList = chars
  induction chars with
  | nil => exact Nat.zero_le _
  | cons c rest ih =>
    have one : 0 < c.utf8Size := c.utf8Size_pos
    rw [String.utf8Len_cons, List.length_cons]
    omega

/-- A valid id is a label of at most twenty characters. -/
theorem isDnsLabel_of_checkId {id : String} (valid : checkId id = none) :
    IsDnsLabel id.toList ∧ id.length ≤ 20 := by
  unfold checkId at valid
  split_ifs at valid with long name
  have chars := length_le_utf8ByteSize id
  exact ⟨isName_iff.1 name, by omega⟩

/-- A valid id is the name of an object. -/
theorem isObjectName_id {id : String} (valid : checkId id = none) : IsObjectName id := by
  obtain ⟨label, short⟩ := isDnsLabel_of_checkId valid
  exact ⟨label, by omega⟩

/-- The name of a role is the name of an object. -/
theorem isObjectName_role (role : Role) : IsObjectName role.name := by
  cases role <;> exact ⟨isName_iff.1 (by decide), by decide⟩

/-- The name of a node is the name of an object, since ids are short enough to be put together. -/
theorem isObjectName_nodeName (role : Role) {clusterId nodeId : String}
    (cluster : checkId clusterId = none) (node : checkId nodeId = none) :
    IsObjectName (nodeName role clusterId nodeId) := by
  obtain ⟨clusterLabel, clusterShort⟩ := isDnsLabel_of_checkId cluster
  obtain ⟨nodeLabel, nodeShort⟩ := isDnsLabel_of_checkId node
  refine ⟨((isObjectName_role role).1.hyphen_toList clusterLabel).hyphen_toList nodeLabel, ?_⟩
  have word : role.name.length ≤ 6 := by cases role <;> decide
  rw [nodeName, length_hyphen, length_hyphen]
  omega

/-- The name of the claim for etcd is the name of an object. -/
theorem isObjectName_etcdClaimName {clusterId nodeId : String}
    (cluster : checkId clusterId = none) (node : checkId nodeId = none) :
    IsObjectName (etcdClaimName clusterId nodeId) := by
  obtain ⟨clusterLabel, clusterShort⟩ := isDnsLabel_of_checkId cluster
  obtain ⟨nodeLabel, nodeShort⟩ := isDnsLabel_of_checkId node
  have word : IsDnsLabel "pvc-master-etcd".toList := isName_iff.1 (by decide)
  refine ⟨(word.hyphen_toList clusterLabel).hyphen_toList nodeLabel, ?_⟩
  have start : "pvc-master-etcd-".length = 16 := rfl
  show ("pvc-master-etcd-" ++ clusterId ++ "-" ++ nodeId).length ≤ 63
  rw [length_hyphen, String.length_append, start]
  omega

/-- The name of the second binding is the name of an object. -/
theorem isObjectName_psp {cluster : Cluster} (valid : checkId cluster.id = none) :
    IsObjectName cluster.pspRoleBindingName := by
  obtain ⟨label, short⟩ := isDnsLabel_of_checkId valid
  have word : IsDnsLabel "psp".toList := isName_iff.1 (by decide)
  have parts : cluster.pspRoleBindingName = cluster.id ++ "-" ++ "psp" := by
    rw [Cluster.pspRoleBindingName, String.append_assoc]
    rfl
  have suffix : ("-psp" : String).length = 4 := rfl
  refine ⟨parts ▸ label.hyphen_toList word, ?_⟩
  rw [Cluster.pspRoleBindingName, String.length_append, suffix]
  omega

namespace Blueprint

variable {b : Blueprint} {etcd : EtcdStorage} (valid : b.cluster.isValid = true)

include valid

/-- Every object of a valid cluster has a name that the API server takes. -/
theorem isObjectName_desired {kind : Kind} {object : Object kind}
    (mem : object ∈ b.desired etcd kind) : IsObjectName object.name := by
  have isId := Cluster.checkId_of_valid valid
  cases kind with
  | «namespace» =>
    rw [List.mem_singleton.1 mem]
    exact isObjectName_id isId
  | serviceAccount =>
    rw [List.mem_singleton.1 mem]
    exact isObjectName_id isId
  | clusterRoleBinding =>
    rcases List.mem_cons.1 mem with rfl | mem
    · exact isObjectName_id isId
    · rw [List.mem_singleton.1 mem]
      exact isObjectName_psp isId
  | configMap =>
    obtain ⟨⟨role, node⟩, isNode, rfl⟩ := List.mem_map.1 mem
    exact isObjectName_nodeName role isId (Cluster.checkId_node valid isNode)
  | persistentVolumeClaim =>
    cases etcd with
    | hostPath => cases mem
    | persistentVolume =>
      obtain ⟨node, isMaster, rfl⟩ := List.mem_map.1 mem
      have isNode : (Role.master, node) ∈ b.cluster.nodes :=
        List.mem_append_left _ (List.mem_map_of_mem isMaster)
      exact isObjectName_etcdClaimName isId (Cluster.checkId_node valid isNode)
  | deployment =>
    obtain ⟨⟨role, node⟩, isNode, rfl⟩ := List.mem_map.1 mem
    exact isObjectName_nodeName role isId (Cluster.checkId_node valid isNode)
  | ingress =>
    have etcdName : IsObjectName "etcd" := ⟨isName_iff.1 (by decide), by decide⟩
    have apiName : IsObjectName "api" := ⟨isName_iff.1 (by decide), by decide⟩
    rcases List.mem_cons.1 mem with rfl | mem
    · exact etcdName
    · rw [List.mem_singleton.1 mem]
      exact apiName
  | service =>
    rcases List.mem_cons.1 mem with rfl | mem
    · exact isObjectName_role .master
    · rw [List.mem_singleton.1 mem]
      exact isObjectName_role .worker
  | pod => cases mem

/-- Within a kind all objects are in the same namespace or in none, so that it is their names that
tell their slots apart. -/
theorem nodup_names (kind : Kind) : ((b.desired etcd kind).map Object.name).Nodup := by
  have apart : Apart (b.desired etcd kind) := b.apart_desired etcd valid
  refine apart.nodup.map_on ?_
  intro one isOne other isOther same
  have spaces : one.metadata.namespaceName = other.metadata.namespaceName :=
    (b.belongs_desired etcd isOne).space.trans (b.belongs_desired etcd isOther).space.symm
  refine apart.eq isOne isOther ?_
  rw [Store.slotOf, Store.slotOf, spaces, same]

omit valid

/-- The objects of a valid cluster have names that are labels of at most 63 characters, and no two
of a kind have the same. -/
theorem make_names_accepted {cluster : Cluster} (valid : cluster.isValid = true)
    (settings : ManifestSettings) :
    ∃ b, make cluster settings = .ok b ∧ ∀ etcd kind,
      (∀ object ∈ b.desired etcd kind, ∃ name, object.metadata.name = some name ∧
        IsDnsLabel name.toList ∧ name.length ≤ 63) ∧
      ((b.desired etcd kind).map fun object => object.metadata.name).Nodup := by
  let b : Blueprint := ⟨cluster, settings⟩
  refine ⟨b, make_of_valid valid settings, fun etcd kind => ⟨fun object mem => ?_, ?_⟩⟩
  · obtain ⟨label, short⟩ := isObjectName_desired (b := b) valid mem
    exact ⟨object.name, (b.metadata_desired etcd mem).1, label, short⟩
  · have named : ((b.desired etcd kind).map fun object => object.metadata.name) =
        ((b.desired etcd kind).map Object.name).map some := by
      rw [List.map_map]
      exact List.map_congr_left fun object mem => (b.metadata_desired etcd mem).1
    rw [named]
    exact (nodup_names (b := b) valid kind).map (fun _ _ => Option.some.inj)

/-- A cluster with ids of the greatest length, in which ids are spelled like parts of names. -/
def longCluster : Cluster :=
  { smallCluster "al9qy-master-al9qy-0" with
    topology :=
      { (smallCluster "al9qy-master-al9qy-0").topology with
        masters := [⟨"0-al9qy-master-al9qy", 2, "2G", "20G"⟩, ⟨"m1", 2, "2G", "20G"⟩]
        workers := [⟨"0-m1", 2, "2G", "20G"⟩, ⟨"al9qy-0-m1", 2, "2G", "20G"⟩] } }

/-- Names stay within 63 characters and apart from each other for ids of the greatest length, too.
-/
theorem make_names_accepted_long :
    longCluster.isValid = true ∧ ∃ b, make longCluster {} = .ok b ∧
      (∃ claim ∈ b.desired .persistentVolume .persistentVolumeClaim, ∃ name,
        claim.metadata.name = some name ∧ IsDnsLabel name.toList ∧ name.length = 57) ∧
      ((b.desired .persistentVolume .deployment).map fun object => object.metadata.name).Nodup := by
  have valid : longCluster.isValid = true := by decide
  obtain ⟨b, made, named⟩ := make_names_accepted valid {}
  obtain rfl : ⟨longCluster, {}⟩ = b := Except.ok.inj ((make_of_valid valid {}).symm.trans made)
  obtain ⟨name, has, label, -⟩ :=
    (named .persistentVolume .persistentVolumeClaim).1 _ List.mem_cons_self
  refine ⟨valid, _, made, ⟨_, List.mem_cons_self, name, has, label, ?_⟩,
    (named .persistentVolume .deployment).2⟩
  rw [← Option.some.inj has]
  rfl

end Blueprint

end GuestFleet
