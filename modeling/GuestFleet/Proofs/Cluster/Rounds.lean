import GuestFleet.Proofs.Cluster.Rest
import GuestFleet.Proofs.Cluster.Rolling

/-!
# Rounds of passes

Passes over a cluster one after the other, between which others rewrite config maps. A deployment
that differs stays so until it is rolled, and before a pass that writes nothing no deployment
differs. That a config map was replaced is remembered for the rest of one pass alone.
-/

namespace GuestFleet

open Kube (Object)
open Store (Collection View World slotOf)

/-! ## The writes of others -/

/-- A config map with other data. -/
def Kube.Object.withData (configMap : Object .configMap) (data : Option Kube.StringMap) :
    Object .configMap :=
  let body : Kube.ConfigMapBody := configMap.body
  { configMap with body := { body with data := data } }

/-- A config map with other data differs from the one that is wanted. -/
theorem Kube.Object.isModified_withData {configMap : Object .configMap}
    {data : Option Kube.StringMap} (other : data ≠ configMap.body.data) (version : Nat) :
    ((configMap.withData data).dated version).isModified configMap = true :=
  bne_iff_ne.2 other

/-- Others have left every object as it was, or have rewritten a part of it. -/
def Meddled {kind : Kube.Kind} {part : Type} (rewritten : Object kind -> part -> Object kind)
    (c d : Collection kind) : Prop :=
  ∀ slot, d.stored slot = c.stored slot ∨
    ∃ existing part version, c.stored slot = some existing ∧
      d.stored slot = some ((rewritten existing part).dated version)

/-- Whoever writes neither name nor labels leaves the objects of nodes where they are found. -/
theorem Meddled.lists {kind : Kube.Kind} {part : Type}
    {rewritten : Object kind -> part -> Object kind} {c d : Collection kind}
    (meddled : Meddled rewritten c d)
    (labelled : ∀ object part, (rewritten object part).metadata.labels = object.metadata.labels)
    {b : Blueprint} {object : Object kind} (lists : b.Lists c object) : b.Lists d object := by
  obtain ⟨existing, stored, selected⟩ := lists
  rcases meddled (slotOf object) with same | ⟨other, part, version, held, written⟩
  · exact ⟨existing, same.trans stored, selected⟩
  · obtain rfl := Option.some.inj (stored.symm.trans held)
    refine ⟨_, written, ?_⟩
    have labels : ((rewritten existing part).dated version).metadata.labels =
        existing.metadata.labels := labelled existing part
    rw [labels]
    exact selected

/-- A status makes no node stale, and no stale one good. -/
theorem Meddled.stale_iff {b : Blueprint} {etcd : EtcdStorage} {all later : Store.Collections}
    (meddled : Meddled Object.withStatus (all.get .deployment) (later.get .deployment))
    {node : Role × Node} : b.Stale etcd later node <-> b.Stale etcd all node := by
  have modified : (∃ existing, (later.get .deployment).stored
        (slotOf (b.deployment etcd node.1 node.2)) = some existing ∧
          existing.isModified (b.deployment etcd node.1 node.2) = true) <->
      ∃ existing, (all.get .deployment).stored
        (slotOf (b.deployment etcd node.1 node.2)) = some existing ∧
          existing.isModified (b.deployment etcd node.1 node.2) = true := by
    rcases meddled (slotOf (b.deployment etcd node.1 node.2)) with
      same | ⟨existing, status, version, held, written⟩
    · rw [same]
    · rw [held, written]
      simp only [Option.some.injEq, exists_eq_left']
      exact Iff.rfl
  constructor
  · rintro ⟨isDeployment, wanted, differs⟩
    exact ⟨isDeployment, wanted, modified.1 differs⟩
  · rintro ⟨isDeployment, wanted, differs⟩
    exact ⟨isDeployment, wanted, modified.2 differs⟩

namespace Pass

/-! ## Rounds -/

/-- Passes over a cluster one after the other that end well. Before the first one all objects of
the cluster exist. Before each pass others may have rewritten the data of config maps, and all
deployments are available. The last pass is completed without a write. -/
structure Rounds (config : Config) (cluster : Cluster) (etcd : EtcdStorage) (start : Nat -> World)
    (last : Nat) : Prop where
  steady : ∀ i ≤ last, ∀ kind, ((start i).collections.get kind).Steady
  ended : ∀ i ≤ last, ∃ outcome,
    ((start i).run (overCluster config cluster .apply).run).1 = .ok outcome
  existing : ∀ kind, Diff.created
    ((blueprint config cluster).found kind ((start 0).collections.get kind))
    ((blueprint config cluster).desired etcd kind) = []
  meddled : ∀ i < last,
    Meddled Object.withData ((brought config cluster (start i)).collections.get .configMap)
        ((start (i + 1)).collections.get .configMap) ∧
      Meddled Object.withStatus ((brought config cluster (start i)).collections.get .deployment)
        ((start (i + 1)).collections.get .deployment)
  available : ∀ i ≤ last,
    ((blueprint config cluster).found .deployment ((start i).collections.get .deployment)).all
      Deployment.isAvailable = true
  completed : ((start last).run (overCluster config cluster .apply).run).1 = .ok .completed
  quiet : Idle (start last).ledger (brought config cluster (start last)).ledger

namespace Rounds

variable {config : Config} {cluster : Cluster} {etcd : EtcdStorage} {start : Nat -> World}
  {last i : Nat} (rounds : Rounds config cluster etcd start last)
  (valid : cluster.isValid = true)
  (registered : Resource.bundles.resolve cluster.version = .ok etcd)

include rounds

/-- All worlds of the rounds are sound. -/
theorem sound (within : i ≤ last) : (start i).collections.Sound :=
  fun kind => (rounds.steady i within kind).sound

include valid registered

/-- What a pass makes of the objects of nodes, as long as all of them are there. -/
theorem replacesOrKeeps (within : i ≤ last)
    (listed : (blueprint config cluster).Listed etcd (start i).collections) :
    (blueprint config cluster).ReplacesOrKeeps etcd (start i).ledger
      (brought config cluster (start i)).ledger := by
  obtain ⟨outcome, ended⟩ := rounds.ended i within
  exact Pass.replacesOrKeeps (rounds.steady i within) config valid registered listed ended

/-- The objects of all nodes are there before every pass. -/
theorem listed (within : i ≤ last) :
    (blueprint config cluster).Listed etcd (start i).collections := by
  let b : Blueprint := blueprint config cluster
  induction i with
  | zero => exact b.listed_of_existing etcd valid (rounds.sound within) rounds.existing
  | succ i ih =>
    have earlier : i ≤ last := Nat.le_of_succ_le within
    have keeps := rounds.replacesOrKeeps valid registered earlier (ih earlier)
    have kept : b.Listed etcd (brought config cluster (start i)).collections :=
      keeps.listed valid (ih earlier)
    -- Neither the pass nor others take labels away.
    obtain ⟨data, status⟩ := rounds.meddled i within
    intro kind isNode object wanted
    have lists := kept kind isNode object wanted
    rcases isNode with rfl | rfl
    · exact data.lists (fun _ _ => rfl) lists
    · exact status.lists (fun _ _ => rfl) lists

/-- Between two passes a node is stale that was so before the first one and was not rolled. -/
theorem stale_next (within : i < last) {node : Role × Node} (mem : node ∈ cluster.nodes) :
    (blueprint config cluster).Stale etcd (start (i + 1)).collections node <->
      (blueprint config cluster).Stale etcd (start i).collections node ∧
        ¬ (blueprint config cluster).Rolled etcd (start i).ledger
          (brought config cluster (start i)).ledger node := by
  have listed := rounds.listed valid registered (Nat.le_of_lt within)
  have keeps := rounds.replacesOrKeeps valid registered (Nat.le_of_lt within) listed
  exact (rounds.meddled i within).2.stale_iff.trans
    (keeps.stale_iff (rounds.sound (Nat.le_of_lt within)) mem)

/-- A node that is stale before a pass was so before every earlier one. -/
theorem stale_earlier {node : Role × Node} (mem : node ∈ cluster.nodes) {j : Nat} (order : i ≤ j)
    (within : j ≤ last) (stale : (blueprint config cluster).Stale etcd (start j).collections node) :
    (blueprint config cluster).Stale etcd (start i).collections node := by
  induction j, order using Nat.le_induction with
  | base => exact stale
  | succ j _ ih =>
    have before := ((rounds.stale_next valid registered within mem).1 stale).1
    exact ih (Nat.le_of_succ_le within) before

/-- A stale node stays so until it is rolled. -/
theorem stale_later {node : Role × Node} (mem : node ∈ cluster.nodes) {j : Nat} (order : i ≤ j)
    (within : j ≤ last) (stale : (blueprint config cluster).Stale etcd (start i).collections node)
    (waits : ∀ k, i ≤ k -> k < j -> ¬ (blueprint config cluster).Rolled etcd (start k).ledger
      (brought config cluster (start k)).ledger node) :
    (blueprint config cluster).Stale etcd (start j).collections node := by
  induction j, order using Nat.le_induction with
  | base => exact stale
  | succ j later ih =>
    have before := ih (Nat.le_of_succ_le within) fun k from_ below =>
      waits k from_ (Nat.lt_succ_of_lt below)
    exact (rounds.stale_next valid registered within mem).2
      ⟨before, waits j later (Nat.lt_succ_self j)⟩

/-- A completed pass rolls the first stale node, or the first whose config map it replaced. -/
theorem rolled_iff_of_completed (within : i ≤ last)
    (completed : ((start i).run (overCluster config cluster .apply).run).1 = .ok .completed)
    {node : Role × Node} (mem : node ∈ cluster.nodes) :
    (blueprint config cluster).Rolled etcd (start i).ledger
        (brought config cluster (start i)).ledger node <->
      IsFirst ((blueprint config cluster).Stale etcd (start i).collections) cluster.nodes node ∨
        (∀ other ∈ cluster.nodes,
          ¬ (blueprint config cluster).Stale etcd (start i).collections other) ∧
        IsFirst ((blueprint config cluster).Refreshed (start i).ledger
          (brought config cluster (start i)).ledger) cluster.nodes node := by
  have course := course_of_completed (rounds.steady i within) config valid registered completed
  have listed := rounds.listed valid registered within
  exact Course.rolled_iff (b := blueprint config cluster) valid (rounds.sound within) course listed
    (fun kind isNode => node_kinds isNode) (rounds.available i within) mem

/-- A pass that has replaced an object was not cancelled. -/
theorem completed_of_replaced (within : i ≤ last) {kind : Kube.Kind} {object : Object kind}
    (replaced : Replaced object (start i).ledger (brought config cluster (start i)).ledger) :
    ((start i).run (overCluster config cluster .apply).run).1 = .ok .completed := by
  obtain ⟨outcome, ended⟩ := rounds.ended i within
  rcases course_or_idle (rounds.steady i within) config valid registered ended with
    ⟨rfl, -⟩ | ⟨-, idle⟩
  · exact ended
  · exact absurd ((idle kind).alike.stored _) (replaced.ne (rounds.sound within))

/-- Before a pass without a write no node is stale. -/
theorem none_stale {node : Role × Node} (mem : node ∈ cluster.nodes) :
    ¬ (blueprint config cluster).Stale etcd (start last).collections node := by
  intro stale
  obtain ⟨first, isFirst⟩ := exists_isFirst mem stale
  have rolled := (rounds.rolled_iff_of_completed valid registered (Nat.le_refl last)
    rounds.completed isFirst.mem).2 (.inl isFirst)
  exact rolled.ne (rounds.sound (Nat.le_refl last)) ((rounds.quiet .deployment).alike.stored _)

end Rounds

end Pass

end GuestFleet
