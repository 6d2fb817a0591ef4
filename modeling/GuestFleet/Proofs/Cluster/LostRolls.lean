import GuestFleet.Proofs.Cluster.Restating

/-!
# Which rolls are lost

Which nodes are rolled when passes follow each other while others rewrite config maps: those that
were stale, and of those whose config maps one pass has replaced the first. When the config maps
of all nodes are rewritten at once, every node but the first goes on with what it was started
with.
-/

namespace GuestFleet

open Kube (Kind Object)
open Store (Collection View World slotOf)
open Request (slotsOf)

namespace Pass

/-! ## Rewriting all config maps -/

section

variable (config : Config) (cluster : Cluster) (etcd : EtcdStorage) (world : World)

/-- The deployments of all nodes are marked as available. -/
def served : World :=
  world.writing (((blueprint config cluster).desired etcd .deployment).map fun deployment =>
    deployment.withStatus (some running))

/-- The config maps of all nodes have lost their data. -/
def defaced : World :=
  world.writing (((blueprint config cluster).desired etcd .configMap).map fun configMap =>
    configMap.withData none)

/-- Someone takes the data out of all config maps, once. Deployments are available before every
pass. -/
def lossy : Nat -> World
  | 0 => defaced config cluster etcd (served config cluster etcd world)
  | i + 1 => served config cluster etcd (brought config cluster (lossy i))

variable {config cluster etcd world} (valid : cluster.isValid = true)

include valid

variable (world) in
/-- Every deployment is stored with a status that makes it available. -/
theorem stored_served {deployment : Deployment}
    (wanted : deployment ∈ (blueprint config cluster).desired etcd .deployment) :
    ∃ version, ((served config cluster etcd world).collections.get .deployment).stored
      (slotOf deployment) = some ((deployment.withStatus (some running)).dated version) := by
  let b : Blueprint := blueprint config cluster
  have apart : Apart ((b.desired etcd .deployment).map fun deployment =>
      deployment.withStatus (some running)) := by
    rw [Apart, List.map_map]
    exact b.apart_desired etcd valid
  exact world.stored_writing apart (List.mem_map_of_mem wanted)

variable (world) in
/-- Every config map is stored without its data. -/
theorem stored_defaced {configMap : Object .configMap}
    (wanted : configMap ∈ (blueprint config cluster).desired etcd .configMap) :
    ∃ version, ((defaced config cluster etcd world).collections.get .configMap).stored
      (slotOf configMap) = some ((configMap.withData none).dated version) := by
  let b : Blueprint := blueprint config cluster
  have apart : Apart ((b.desired etcd .configMap).map fun configMap =>
      configMap.withData none) := by
    rw [Apart, List.map_map]
    exact b.apart_desired etcd valid
  exact world.stored_writing apart (List.mem_map_of_mem wanted)

/-- Deployments that are only marked differ from nothing that is desired. -/
theorem same_served (object : Deployment) :
    ¬ Differs ((blueprint config cluster).desired etcd .deployment)
      ((served config cluster etcd world).collections.get .deployment) object := by
  intro differs
  obtain ⟨version, stored⟩ := stored_served world valid differs.wanted
  obtain ⟨node, -, rfl⟩ := List.mem_map.1 differs.wanted
  exact (blueprint config cluster).not_stale etcd stored differs

/-- Marking is no more than what others may do. -/
theorem meddled_served
    (held : ∀ deployment ∈ (blueprint config cluster).desired etcd .deployment,
      ∃ status version, (world.collections.get .deployment).stored (slotOf deployment) =
        some ((deployment.withStatus status).dated version)) :
    Meddled Object.withStatus (world.collections.get .deployment)
      ((served config cluster etcd world).collections.get .deployment) := by
  intro slot
  by_cases own : slot ∈ slotsOf ((blueprint config cluster).desired etcd .deployment)
  · obtain ⟨deployment, wanted, rfl⟩ := List.mem_map.1 own
    obtain ⟨status, version, stored⟩ := held deployment wanted
    obtain ⟨later, marked⟩ := stored_served world valid wanted
    exact .inr ⟨_, some running, later, stored, marked⟩
  · refine .inl (world.stored_writing_elsewhere ?_)
    rw [slotsOf, List.map_map]
    exact own

variable (atRest : AtRest config cluster etcd world)

include atRest

/-- Marking deployments as available leaves a cluster at rest. -/
theorem AtRest.served : AtRest config cluster etcd (served config cluster etcd world) :=
  atRest.writing valid (List.Subset.refl _) (some running)

/-- At rest only deployments of nodes are found, so that all of them are available. -/
theorem AtRest.available :
    ((blueprint config cluster).found .deployment
      ((Pass.served config cluster etcd world).collections.get .deployment)).all
        Deployment.isAvailable = true := by
  let b : Blueprint := blueprint config cluster
  rw [List.all_eq_true]
  intro existing mem
  have resting := atRest.served valid
  have reading := b.isReading_found etcd valid (resting.owned.sound .deployment)
    (resting.owned.owned .deployment)
  obtain ⟨seen, stored⟩ := (reading existing).1 mem
  have held : (((Pass.served config cluster etcd world).collections.get .deployment).stored
      (slotOf existing)).isSome = true := by
    rw [stored]
    rfl
  rcases (resting.settled .deployment (node_kinds (.inr rfl))).occupied _ seen held with
    surplus | ⟨deployment, wanted, same⟩
  · exact surplus.elim
  · obtain ⟨version, marked⟩ := stored_served world valid wanted
    rw [same, stored] at marked
    obtain ⟨node, -, rfl⟩ := List.mem_map.1 wanted
    rw [Option.some.inj marked]
    rfl

/-! ## The pass after that -/

/-- At the loss everything belongs to the cluster. -/
theorem AtRest.owned_lossy : (lossy config cluster etcd world 0).collections.Owned cluster.id := by
  let b : Blueprint := blueprint config cluster
  refine (atRest.served valid).owned.writing fun object mem => ?_
  obtain ⟨configMap, wanted, rfl⟩ := List.mem_map.1 mem
  exact (b.belongs_desired etcd wanted).congr rfl rfl rfl

/-- At the loss no failures are awaited. -/
theorem AtRest.unfailing_lossy (kind : Kind) :
    ((lossy config cluster etcd world 0).collections.get kind).faults = [] := by
  rw [lossy, defaced, World.faults_writing]
  exact (atRest.served valid).unfailing kind

omit valid atRest in
/-- The loss is one of config maps alone. -/
theorem get_lossy {kind : Kind} (other : kind ≠ .configMap) :
    (lossy config cluster etcd world 0).collections.get kind =
      (Pass.served config cluster etcd world).collections.get kind := by
  rw [lossy, defaced, World.get_writing_of_ne _ _ other]

omit atRest in
/-- At the loss no deployment differs from what is wanted. -/
theorem fresh_lossy (node : Role × Node) :
    ¬ (blueprint config cluster).Stale etcd (lossy config cluster etcd world 0).collections
      node := by
  rw [Blueprint.Stale, get_lossy (by decide)]
  exact same_served valid _

/-- At the loss nothing is missing. -/
theorem AtRest.existing_lossy (kind : Kind) :
    Diff.created ((blueprint config cluster).found kind
        ((lossy config cluster etcd world 0).collections.get kind))
      ((blueprint config cluster).desired etcd kind) = [] := by
  let b : Blueprint := blueprint config cluster
  have owned := atRest.owned_lossy valid
  refine b.created_nil etcd valid (owned.sound kind) (owned.owned kind) fun object wanted => ?_
  by_cases isConfigMap : kind = .configMap
  · subst isConfigMap
    obtain ⟨version, stored⟩ := stored_defaced (Pass.served config cluster etcd world) valid wanted
    rw [lossy, stored]
    rfl
  · rw [get_lossy isConfigMap]
    exact (atRest.served valid).present wanted

variable (registered : Resource.bundles.resolve cluster.version = .ok etcd)

include registered

/-- The pass after the loss is completed. -/
theorem AtRest.completed_lossy :
    ((lossy config cluster etcd world 0).run (overCluster config cluster .apply).run).1 =
      .ok .completed := by
  let b : Blueprint := blueprint config cluster
  have owned := atRest.owned_lossy valid
  have goes : ¬ b.Stops .apply (lossy config cluster etcd world 0).collections := by
    rw [Blueprint.Stops, get_lossy (by decide)]
    exact (atRest.served valid).goes valid .apply
  refine completed_of_able owned.sound (atRest.unfailing_lossy valid) config valid registered goes
    (b.able_of_existing valid owned.sound (atRest.existing_lossy valid) fun kind isMerged => ?_)
  have others : kind ≠ .configMap ∧ kind ≠ .deployment := by
    rcases isMerged with rfl | rfl <;> decide
  rw [get_lossy others.1]
  exact (atRest.served valid).unmodified valid others.2

/-- The pass after the loss leaves the cluster at rest. -/
theorem AtRest.after_lossy :
    AtRest config cluster etcd (brought config cluster (lossy config cluster etcd world 0)) :=
  .of_completed valid (atRest.owned_lossy valid) (atRest.unfailing_lossy valid) registered
    (atRest.completed_lossy valid registered)

/-- The pass after the loss replaces config maps and deployments, or keeps them. -/
theorem AtRest.keeps_lossy :
    (blueprint config cluster).ReplacesOrKeeps etcd (lossy config cluster etcd world 0).ledger
      (brought config cluster (lossy config cluster etcd world 0)).ledger := by
  let b : Blueprint := blueprint config cluster
  have sound := (atRest.owned_lossy valid).sound
  have steady : ∀ kind, ((lossy config cluster etcd world 0).collections.get kind).Steady :=
    fun kind => (sound kind).steady (atRest.unfailing_lossy valid kind)
  have listed := b.listed_of_existing etcd valid sound (atRest.existing_lossy valid)
  exact replacesOrKeeps steady config valid registered listed
    (atRest.completed_lossy valid registered)

/-- Rolled or not, deployments are as desired but for their status. -/
theorem AtRest.held_lossy {deployment : Deployment}
    (wanted : deployment ∈ (blueprint config cluster).desired etcd .deployment) :
    ∃ status version,
      ((brought config cluster (lossy config cluster etcd world 0)).collections.get
        .deployment).stored (slotOf deployment) =
          some ((deployment.withStatus status).dated version) := by
  rcases atRest.keeps_lossy valid registered .deployment (.inr rfl) deployment wanted with
    ⟨version, -, held⟩ | same
  · obtain ⟨node, -, rfl⟩ := List.mem_map.1 wanted
    exact ⟨none, version, held⟩
  · obtain ⟨version, stored⟩ := stored_served world valid wanted
    rw [← get_lossy (by decide)] at stored
    exact ⟨some running, version, same.trans stored⟩

/-- The pass restores every config map. -/
theorem AtRest.refreshed_lossy {node : Role × Node} (mem : node ∈ cluster.nodes) :
    (blueprint config cluster).Refreshed (lossy config cluster etcd world 0).ledger
      (brought config cluster (lossy config cluster etcd world 0)).ledger node := by
  have wanted := (blueprint config cluster).configMap_mem etcd mem
  rcases atRest.keeps_lossy valid registered .configMap (.inl rfl) _ wanted with replaced | same
  · exact replaced
  · -- Without its data the config map would differ, but the pass leaves none that does.
    obtain ⟨version, stored⟩ := stored_defaced (Pass.served config cluster etcd world) valid wanted
    have settled := (atRest.after_lossy valid registered).settled .configMap (node_kinds (.inl rfl))
    have good := settled.good _ wanted not_false _ (same.trans stored)
    have emptied : none ≠ ((blueprint config cluster).configMap node.1 node.2).body.data := nofun
    cases (good.same (by decide)).symm.trans (Object.isModified_withData emptied version)

/-- The two passes make a round: the second one finds nothing to do. -/
theorem AtRest.rounds_lossy : Rounds config cluster etcd (lossy config cluster etcd world) 1 := by
  have after := atRest.after_lossy valid registered
  obtain ⟨completed, quiet⟩ := (after.served valid).rests valid registered (same_served valid)
  refine ⟨?_, ?_, atRest.existing_lossy valid, ?_, ?_, completed, quiet⟩
  · intro i within kind
    rcases Nat.le_one_iff_eq_zero_or_eq_one.1 within with rfl | rfl
    · exact ((atRest.owned_lossy valid).sound kind).steady (atRest.unfailing_lossy valid kind)
    · exact ((after.served valid).owned.sound kind).steady ((after.served valid).unfailing kind)
  · intro i within
    rcases Nat.le_one_iff_eq_zero_or_eq_one.1 within with rfl | rfl
    · exact ⟨_, atRest.completed_lossy valid registered⟩
    · exact ⟨_, completed⟩
  · intro i below
    obtain rfl : i = 0 := Nat.lt_one_iff.1 below
    have untouched : (lossy config cluster etcd world (0 + 1)).collections.get .configMap =
        (brought config cluster (lossy config cluster etcd world 0)).collections.get .configMap :=
      World.get_writing_of_ne _ _ (by decide)
    refine ⟨fun slot => .inl ?_, meddled_served valid fun deployment wanted => ?_⟩
    · rw [untouched]
    · exact atRest.held_lossy valid registered wanted
  · intro i within
    rcases Nat.le_one_iff_eq_zero_or_eq_one.1 within with rfl | rfl
    · rw [get_lossy (by decide)]
      exact atRest.available valid
    · exact after.available valid

end

/-- A node is rolled in some pass or a later one exactly if its deployment differed before that
pass, or if in one of the passes no deployment differed before and the node was the first whose
config map was replaced. Every other node whose config map was replaced is never rolled for it. -/
theorem overCluster_rolls_iff {config : Config} {cluster : Cluster} {etcd : EtcdStorage}
    {start : Nat -> World} {last : Nat} (rounds : Rounds config cluster etcd start last)
    (valid : cluster.isValid = true)
    (registered : Resource.bundles.resolve cluster.version = .ok etcd) {i : Nat}
    (within : i ≤ last) {node : Role × Node} (mem : node ∈ cluster.nodes) :
    let b := blueprint config cluster
    let finish (j : Nat) := brought config cluster (start j)
    (∃ j, i ≤ j ∧ j ≤ last ∧ b.Rolled etcd (start j).ledger (finish j).ledger node) <->
      b.Stale etcd (start i).collections node ∨
        ∃ j, i ≤ j ∧ j ≤ last ∧
          (∀ other ∈ cluster.nodes, ¬ b.Stale etcd (start j).collections other) ∧
          IsFirst (b.Refreshed (start j).ledger (finish j).ledger) cluster.nodes node := by
  intro b finish
  constructor
  · rintro ⟨j, order, atMost, rolled⟩
    have completed := rounds.completed_of_replaced valid registered atMost rolled
    rcases (rounds.rolled_iff_of_completed valid registered atMost completed mem).1 rolled with
      stale | refreshed
    · exact .inl (rounds.stale_earlier valid registered mem order atMost stale.1)
    · exact .inr ⟨j, order, atMost, refreshed⟩
  · rintro (stale | ⟨j, order, atMost, noneStale, first⟩)
    · by_contra never
      refine rounds.none_stale valid registered mem
        (rounds.stale_later valid registered mem within (Nat.le_refl last) stale ?_)
      intro k order below rolled
      exact never ⟨k, order, Nat.le_of_lt below, rolled⟩
    · have completed := rounds.completed_of_replaced valid registered atMost first.1
      exact ⟨j, order, atMost,
        (rounds.rolled_iff_of_completed valid registered atMost completed mem).2
          (.inr ⟨noneStale, first⟩)⟩

/-- The worker of a cluster whose config maps both lost their data. -/
def pairWorker : Role × Node := (.worker, ⟨"w1", 2, "2G", "20G"⟩)

/-- A cluster with a worker that was brought about in an empty world is at rest. -/
theorem atRest_pair : AtRest {} (pairCluster "al9qy") .persistentVolume
    (brought {} (pairCluster "al9qy") {}) := by
  have unfailing : ∀ kind, (({} : World).collections.get kind).faults = [] := by
    intro kind
    cases kind <;> rfl
  have completed : (({} : World).run (overCluster {} (pairCluster "al9qy") .apply).run).1 =
      .ok .completed := by
    decide +kernel
  have owned : ({} : World).collections.Owned (pairCluster "al9qy").id := Reached.start.owned
  exact .of_completed (by decide) owned unfailing rfl completed

/-- The config maps of a master and a worker are rewritten at once. Both are restored by the next
pass, which rolls the master, and the pass after that writes nothing: the worker is never
rolled. -/
theorem overCluster_loses_roll :
    let b := blueprint {} (pairCluster "al9qy")
    let start := lossy {} (pairCluster "al9qy") .persistentVolume
      (brought {} (pairCluster "al9qy") {})
    let finish (j : Nat) := brought {} (pairCluster "al9qy") (start j)
    Rounds {} (pairCluster "al9qy") .persistentVolume start 1 ∧
      pairWorker ∈ (pairCluster "al9qy").nodes ∧
      b.Refreshed (start 0).ledger (finish 0).ledger pairWorker ∧
      ¬ ∃ j, 0 ≤ j ∧ j ≤ 1 ∧
        b.Rolled .persistentVolume (start j).ledger (finish j).ledger pairWorker := by
  intro b start finish
  have valid : (pairCluster "al9qy").isValid = true := by decide
  have nodes : (pairCluster "al9qy").nodes = [(.master, ⟨"m1", 2, "2G", "20G"⟩), pairWorker] := rfl
  have mem : pairWorker ∈ (pairCluster "al9qy").nodes := by
    rw [nodes]
    exact List.mem_cons_of_mem _ List.mem_cons_self
  have rounds : Rounds {} (pairCluster "al9qy") .persistentVolume start 1 :=
    atRest_pair.rounds_lossy valid rfl
  refine ⟨rounds, mem, atRest_pair.refreshed_lossy valid rfl mem, ?_⟩
  intro rolled
  rcases (overCluster_rolls_iff rounds valid rfl (Nat.zero_le 1) mem).1 rolled with
    stale | ⟨j, -, within, -, isFirst⟩
  · exact fresh_lossy valid pairWorker stale
  · rcases Nat.le_one_iff_eq_zero_or_eq_one.1 within with rfl | rfl
    · rw [nodes] at isFirst
      have master := atRest_pair.refreshed_lossy valid rfl
        (List.mem_cons_self : (.master, ⟨"m1", 2, "2G", "20G"⟩) ∈ (pairCluster "al9qy").nodes)
      cases isFirst.eq_head master
    · exact isFirst.1.ne (rounds.sound (Nat.le_refl 1))
        ((rounds.quiet .configMap).alike.stored _)

end Pass

end GuestFleet
