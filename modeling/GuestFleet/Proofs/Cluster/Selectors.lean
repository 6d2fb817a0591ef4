import GuestFleet.Proofs.Cluster.Desired
import GuestFleet.Proofs.Kube.SelectorTerms
import GuestFleet.Proofs.Resource.Readings

/-!
# Selectors of clusters

The selectors by which a cluster finds its objects are terms over words, so that they select by the
labels alone: the objects of nodes of the clusters with the same id, and no others.
-/

namespace GuestFleet

open Kube (SelectorTerm StringMap)

/-- Labels name one cluster and one role. -/
theorem Labelled.unique {id other : String} {role another : Role} {labels : Option StringMap}
    (first : Labelled id role labels) (second : Labelled other another labels) :
    id = other ∧ role = another := by
  have names : role.name = another.name := Option.some.inj (first.2.symm.trans second.2)
  refine ⟨Option.some.inj (first.1.symm.trans second.1), ?_⟩
  cases role <;> cases another <;> first | rfl | exact absurd names (by decide)

/-- The labels are those of an object for a node of some role in the second cluster: the selectors
of the first one select it just if it has the same id, but for those of the other role. -/
structure SelectedById (one other : Cluster) (role : Role) (labels : Option StringMap) : Prop where
  byNode : Kube.Selector.selects one.nodeSelector labels = true <-> one.id = other.id
  byRole : Kube.Selector.selects (one.roleSelector role) labels = true <-> one.id = other.id
  otherRole : ∀ asked, asked ≠ role -> Kube.Selector.selects (one.roleSelector asked) labels = false

/-- A valid cluster selects by the cluster and the role that labels name. -/
theorem Labelled.selectedById {one other : Cluster} (valid : one.isValid = true) {role : Role}
    {labels : Option StringMap} (labelled : Labelled other.id role labels) :
    SelectedById one other role labels := by
  have plain := (Cluster.id_of_valid valid).1
  constructor
  · rw [selects_nodeSelector plain]
    constructor
    · rintro ⟨asked, same⟩
      exact (same.unique labelled).1
    · intro same
      exact ⟨role, same ▸ labelled⟩
  · rw [selects_roleSelector plain]
    exact ⟨fun same => (same.unique labelled).1, fun same => same ▸ labelled⟩
  · intro asked differ
    rw [← Bool.not_eq_true, selects_roleSelector plain]
    exact fun same => differ (same.unique labelled).2

/-- A selector that is written from terms over words selects what all of the terms hold of. So the
selectors of a valid cluster select config maps, deployments and etcd claims of a valid cluster just
if the clusters have the same id. -/
theorem selectors_exact :
    (∀ (terms : List SelectorTerm) (labels : Option StringMap),
      (∀ term ∈ terms, term.IsOfWords) ->
        (Kube.Selector.selects (Kube.Selector.ofTerms terms) labels = true <->
          ∀ term ∈ terms, term.Asks (labels.getD []))) ∧
    ∀ one other : Cluster, one.isValid = true -> other.isValid = true -> ∀ settings,
      ∃ b, Blueprint.make other settings = .ok b ∧
        (∀ etcd role node, (role, node) ∈ other.nodes ->
          SelectedById one other role (b.configMap role node).metadata.labels ∧
          SelectedById one other role (b.deployment etcd role node).metadata.labels) ∧
        ∀ claim ∈ b.etcdClaims, SelectedById one other .master claim.metadata.labels := by
  refine ⟨fun terms labels ofWords => Kube.Selector.selects_ofTerms ofWords labels, ?_⟩
  intro one other valid validOther settings
  let b : Blueprint := ⟨other, settings⟩
  have selected (role : Role) (node : Node) :
      SelectedById one other role (some (other.nodeLabels role node)) :=
    (Blueprint.labelled_nodeLabels other role node).selectedById valid
  refine ⟨b, Blueprint.make_of_valid validOther settings, ?_, fun claim mem => ?_⟩
  · intro etcd role node _
    exact ⟨selected role node, selected role node⟩
  · obtain ⟨node, -, rfl⟩ := List.mem_map.1 mem
    exact selected .master node

/-- Every sort of term in one selector, and two clusters of which one id begins the other. -/
theorem selectors_exact_mixed :
    let terms : List SelectorTerm := [.oneOf "app" ["master", "worker"], .equals "cluster" "al9qy",
      .differs "node" "m1", .isPresent "customer"]
    let labels : StringMap := [("app", "worker"), ("cluster", "al9qy"), ("customer", "acme")]
    (∀ term ∈ terms, term.IsOfWords) ∧
      Kube.Selector.selects "app in (master,worker),cluster=al9qy,node!=m1,customer" (some labels) =
        true ∧
      (pairCluster "al9qy").isValid = true ∧ (pairCluster "al9qy-psp").isValid = true ∧
      ∃ b, Blueprint.make (pairCluster "al9qy-psp") {} = .ok b ∧
        Kube.Selector.selects (pairCluster "al9qy").nodeSelector
          (b.configMap .worker ⟨"w1", 2, "2G", "20G"⟩).metadata.labels ≠ true := by
  intro terms labels
  have ofWords : ∀ term ∈ terms, term.IsOfWords := by decide
  have valid : (pairCluster "al9qy").isValid = true := by decide
  have validOther : (pairCluster "al9qy-psp").isValid = true := by decide
  have written : Kube.Selector.ofTerms terms =
      "app in (master,worker),cluster=al9qy,node!=m1,customer" := by decide
  obtain ⟨b, made, nodes, -⟩ := selectors_exact.2 _ _ valid validOther {}
  refine ⟨ofWords, ?_, valid, validOther, b, made, fun selected => ?_⟩
  · have holds : ∀ term ∈ terms, term.holds labels = true := by decide
    rw [← written, selectors_exact.1 terms (some labels) ofWords]
    exact fun term mem => SelectorTerm.holds_iff.1 (holds term mem)
  · have isNode : (Role.worker, (⟨"w1", 2, "2G", "20G"⟩ : Node)) ∈
        (pairCluster "al9qy-psp").nodes := by decide
    exact absurd ((nodes .hostPath _ _ isNode).1.byNode.1 selected) (by decide)

end GuestFleet
