import GuestFleet.Cluster.Names
import GuestFleet.Cluster.Validation
import GuestFleet.Proofs.Kube.Selecting

/-!
# Valid clusters

What the checks of a cluster promise to those who make names and selectors from it: the id
is a word without marks, and no two nodes have the same id.
-/

namespace GuestFleet

open Kube (SelectorTerm StringMap)
open Kube.SelectorTerm (IsPlain)

/-! ## Ids -/

/-- Where there are no findings at a path there is no cause for one. -/
theorem at_nil {path : List PathStep} {cause : Option Violation} (nothing : at? path cause = []) :
    cause = none := by
  cases cause with
  | none => rfl
  | some violation => cases nothing

/-- The characters of names have no meaning in selectors. -/
theorem isPlain_of_name {c : Char} (inName : (isNameEnd c || c == '-') = true) : IsPlain c := by
  apply Kube.SelectorTerm.isPlain_of_code
  simp only [isNameEnd, Char.isDigit, Bool.or_eq_true, Bool.and_eq_true, decide_eq_true_eq,
    beq_iff_eq] at inName
  rcases inName with (⟨low, high⟩ | ⟨low, high⟩) | rfl
  · exact .inr (.inr (.inr ⟨low, high⟩))
  · exact .inl ⟨Nat.le_trans (by decide) low, high⟩
  · exact .inl (by decide)

/-- An id that is valid is a word, and not an empty one. -/
theorem checkId_none {id : String} (valid : checkId id = none) :
    (∀ c ∈ id.toList, IsPlain c) ∧ id.isEmpty = false := by
  unfold checkId at valid
  split_ifs at valid with long name
  unfold isName at name
  split at name
  · cases name
  · next first rest text =>
    simp only [Bool.and_eq_true, List.all_eq_true] at name
    constructor
    · intro c mem
      exact isPlain_of_name (name.1.2 c mem)
    · rw [← Bool.not_eq_true, String.isEmpty_iff]
      rintro rfl
      cases text

/-- Nodes without findings have valid ids. -/
theorem checkId_of_nodesFindings {path : List PathStep} {position : Nat} {nodes : List Node}
    (nothing : nodesFindings path position nodes = []) {node : Node} (mem : node ∈ nodes) :
    checkId node.id = none := by
  induction nodes generalizing position with
  | nil => cases mem
  | cons first rest ih =>
    obtain ⟨here, later⟩ := List.append_eq_nil_iff.1 nothing
    rcases List.mem_cons.1 mem with rfl | mem
    · unfold Node.findings at here
      simp only [List.append_eq_nil_iff] at here
      exact at_nil here.1.1.1
    · exact ih later mem

/-- Ids of which none is a repetition are pairwise different, and so from those seen. -/
theorem firstRepeated_none {seen ids : List String} (fresh : firstRepeated seen ids = none) :
    ids.Nodup ∧ ∀ id ∈ ids, id ∉ seen := by
  induction ids generalizing seen with
  | nil =>
    refine ⟨List.nodup_nil, ?_⟩
    intro id mem
    cases mem
  | cons id ids ih =>
    unfold firstRepeated at fresh
    split_ifs at fresh with repeated
    rw [List.contains_iff_mem] at repeated
    obtain ⟨nodup, unseen⟩ := ih fresh
    constructor
    · refine List.nodup_cons.2 ⟨?_, nodup⟩
      intro mem
      exact unseen id mem List.mem_cons_self
    · intro other mem
      rcases List.mem_cons.1 mem with rfl | mem
      · exact repeated
      · intro old
        exact unseen other mem (List.mem_cons_of_mem id old)

namespace Cluster

variable {cluster : Cluster}

/-- The fields of a valid topology have no findings, and no node of it has the id of another. -/
theorem topology_of_valid (valid : cluster.isValid = true) :
    cluster.topology.fieldFindings = [] ∧
      firstRepeated [] ((cluster.topology.masters ++ cluster.topology.workers).map Node.id) =
        none := by
  have nothing : cluster.topology.findings = [] :=
    (List.append_eq_nil_iff.1 (List.isEmpty_iff.1 valid)).1
  unfold Topology.findings at nothing
  cases fields : cluster.topology.fieldFindings with
  | nil =>
    rw [fields] at nothing
    exact ⟨rfl, Option.map_eq_none_iff.1 (at_nil nothing)⟩
  | cons finding findings =>
    rw [fields] at nothing
    cases nothing

/-- The id of a valid cluster is valid. -/
theorem checkId_of_valid (valid : cluster.isValid = true) : checkId cluster.id = none := by
  have fields := (topology_of_valid valid).1
  unfold Topology.fieldFindings at fields
  simp only [List.append_eq_nil_iff] at fields
  exact at_nil fields.1.1.1.1

/-- The id of a valid cluster is a word, and not an empty one. -/
theorem id_of_valid (valid : cluster.isValid = true) :
    (∀ c ∈ cluster.id.toList, IsPlain c) ∧ cluster.id.isEmpty = false :=
  checkId_none (checkId_of_valid valid)

/-- A customer's id is short. -/
theorem customer_of_valid (valid : cluster.isValid = true) :
    cluster.topology.customerId.length ≤ 63 := by
  have fields := (topology_of_valid valid).1
  unfold Topology.fieldFindings at fields
  simp only [List.append_eq_nil_iff] at fields
  have nothing := at_nil fields.1.1.1.2
  unfold checkCustomer at nothing
  split_ifs at nothing with short
  rw [Bool.and_eq_true, decide_eq_true_eq, decide_eq_true_eq] at short
  exact short.2

/-- A valid cluster has a master. -/
theorem masters_of_valid (valid : cluster.isValid = true) : cluster.topology.masters ≠ [] := by
  intro none
  have fields := (topology_of_valid valid).1
  unfold Topology.fieldFindings at fields
  simp only [List.append_eq_nil_iff, none, List.isEmpty_nil, if_true] at fields
  cases at_nil fields.1.1.2

/-- The ids of a valid cluster's nodes are valid. -/
theorem checkId_node (valid : cluster.isValid = true) {role : Role} {node : Node}
    (mem : (role, node) ∈ cluster.nodes) : checkId node.id = none := by
  have fields := (topology_of_valid valid).1
  unfold Topology.fieldFindings at fields
  simp only [List.append_eq_nil_iff] at fields
  rcases List.mem_append.1 mem with mem | mem
  · obtain ⟨_, among, same⟩ := List.mem_map.1 mem
    cases same
    exact checkId_of_nodesFindings fields.1.2 among
  · obtain ⟨_, among, same⟩ := List.mem_map.1 mem
    cases same
    exact checkId_of_nodesFindings fields.2 among

/-- The ids of a valid cluster's nodes are words, too. -/
theorem node_of_valid (valid : cluster.isValid = true) {role : Role} {node : Node}
    (mem : (role, node) ∈ cluster.nodes) : ∀ c ∈ node.id.toList, IsPlain c :=
  (checkId_none (checkId_node valid mem)).1

/-- No two nodes of a valid cluster have the same id. -/
theorem nodes_of_valid (valid : cluster.isValid = true) :
    (cluster.nodes.map fun node => node.2.id).Nodup := by
  have nodup := (firstRepeated_none (topology_of_valid valid).2).1
  have same : (cluster.nodes.map fun node => node.2.id) =
      (cluster.topology.masters ++ cluster.topology.workers).map Node.id := by
    simp [nodes, Function.comp_def]
  rw [same]
  exact nodup

end Cluster

/-! ## Selectors -/

/-- The label of clusters is plain. -/
theorem plain_clusterLabel : ∀ c ∈ clusterLabel.toList, IsPlain c := by
  simp [clusterLabel, IsPlain, Text.isBlank]

/-- The selector of all nodes asks for the cluster's label and one of the two roles. -/
theorem Cluster.terms_nodeSelector (cluster : Cluster)
    (plain : ∀ c ∈ cluster.id.toList, IsPlain c) :
    Kube.Selector.terms cluster.nodeSelector =
      [.equals clusterLabel cluster.id, .oneOf appLabel [Role.master.name, Role.worker.name]] := by
  have text : cluster.nodeSelector.toList =
      (clusterLabel.toList ++ '=' :: cluster.id.toList) ++ ',' ::
        "app in (master,worker)".toList := by
    simp [nodeSelector, appLabel, Role.name]
  rw [Kube.Selector.terms_equals_comma plain_clusterLabel plain text, String.ofList_toList,
    String.ofList_toList]
  rfl

/-- The selector of a role asks for the cluster's label and the role's. -/
theorem Cluster.terms_roleSelector (cluster : Cluster) (role : Role)
    (plain : ∀ c ∈ cluster.id.toList, IsPlain c) :
    Kube.Selector.terms (cluster.roleSelector role) =
      [.equals clusterLabel cluster.id, .equals appLabel role.name] := by
  have text : (cluster.roleSelector role).toList =
      (clusterLabel.toList ++ '=' :: cluster.id.toList) ++ ',' ::
        (appLabel ++ "=" ++ role.name).toList := by
    simp [roleSelector]
  rw [Kube.Selector.terms_equals_comma plain_clusterLabel plain text, String.ofList_toList,
    String.ofList_toList]
  cases role <;> rfl

/-- A cluster with a single master. -/
def smallCluster (id : String) : Cluster where
  metadata := { name := some id }
  topology :=
    { id := id
      customerId := "acme"
      masters := [⟨"m1", 2, "2G", "20G"⟩]
      workers := []
      ingressDomain := none }
  version := "1.0.0"
  status := none

/-- The cluster with a single master and a worker. -/
def pairCluster (id : String) : Cluster :=
  { smallCluster id with
    topology := { (smallCluster id).topology with workers := [⟨"w1", 2, "2G", "20G"⟩] } }

/-- The cluster with another single master. -/
def movedMaster (id : String) : Cluster :=
  { smallCluster id with
    topology := { (smallCluster id).topology with masters := [⟨"m2", 2, "2G", "20G"⟩] } }

end GuestFleet
