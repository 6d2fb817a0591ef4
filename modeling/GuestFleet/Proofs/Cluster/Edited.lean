import GuestFleet.Proofs.Cluster.Inherited
import GuestFleet.Proofs.Cluster.Provisioned
import GuestFleet.Proofs.Cluster.RollOut

/-!
# Edited clusters

A cluster is brought about where nothing was, and then edited: passes over the edited cluster
follow, before each of which all deployments are available. They are completed, one of them comes
to find nothing to do, and what is stored by then is what the edited cluster inherits.
-/

namespace GuestFleet

open Kube (Kind Object)
open Store (Collection Collections Slot World slotOf)
open Request (creating leaving merging rebinding replacing slotsOf)

variable {kind : Kind}

/-! ## Single passes -/

/-- Which slots are looked into does not depend on the storage of etcd. -/
theorem Blueprint.sees_storage (b : Blueprint) (old etcd : EtcdStorage) (slot : Slot) :
    b.Sees old kind slot <-> b.Sees etcd kind slot := by
  cases kind <;> exact Iff.rfl

/-- What is not modified is not created anew. -/
theorem Blueprint.creation_unmodified {object held : Object kind}
    (same : held.isModified object = false) :
    (creation kind).fate object (some held) = .stays := by
  have current (isMerged : held.needsUpdate object = false) :
      merging.fate object (some held) = .stays := by
    simp only [merging, isMerged, Bool.false_eq_true, if_false]
  cases kind with
  | ingress => exact current same
  | service => exact current same
  | _ => rfl

section

variable {b : Blueprint} {etcd : EtcdStorage} (valid : b.cluster.isValid = true)
  {context : Context} (isApply : context.event = .apply) {c d : Collection kind} (sound : c.Sound)
  (owned : c.Owned b.cluster.id)

include valid isApply sound owned

/-- Objects that are not modified are left alone, but for deployments. -/
theorem Blueprint.keeps_unmodified (notDeployment : kind ≠ .deployment)
    (made : (b.care etcd kind).Made c ((b.care etcd kind).plan context c) d)
    {object held : Object kind} (wanted : object ∈ b.desired etcd kind)
    (stored : c.stored (slotOf object) = some held) (same : held.isModified object = false) :
    d.stored (slotOf object) = some held := by
  have fit := b.fit_care etcd valid kind
  have keyed : ∀ existing ∈ b.found kind c, slotOf existing = slotOf object ->
      existing.key = object.key := by
    intro existing among slot
    have belongs := owned (b.found_stored sound among)
    exact (belongs.key_eq_iff (b.belongs_desired etcd wanted)).2 slot
  rcases fit.provided isApply made wanted sound keyed with
    ⟨-, created⟩ | ⟨-, ⟨renewed, -⟩ | ⟨-, left⟩⟩
  · have befallen := created.befallen
    have stays : (b.care etcd kind).creation.fate object (some held) = .stays :=
      creation_unmodified same
    rw [stored, stays] at befallen
    exact befallen
  · have differs : object ∈ Diff.modified (b.found kind c) (b.desired etcd kind) := by
      rw [← b.renewed_usual etcd notDeployment context]
      exact renewed
    have reading := b.isReading_found etcd valid sound owned
    obtain ⟨-, existing, here, modified⟩ :=
      (reading.mem_modified sound owned (b.target_desired etcd valid kind)).1 differs
    obtain rfl := Option.some.inj (here.symm.trans stored)
    cases same.symm.trans modified
  · exact left.trans stored

end

namespace Pass

/-- All deployments that a pass over the cluster finds are available. -/
def Available (config : Config) (cluster : Cluster) (world : World) : Prop :=
  ((blueprint config cluster).found .deployment (world.collections.get .deployment)).all
    Deployment.isAvailable = true

section

variable {config : Config} {cluster : Cluster} {etcd : EtcdStorage} {world : World}
  (valid : cluster.isValid = true) (atRest : AtRest config cluster etcd world)

include valid atRest

/-- Where a cluster is at rest nothing is to be created. -/
theorem AtRest.existing (kind : Kind) :
    Diff.created ((blueprint config cluster).found kind (world.collections.get kind))
      ((blueprint config cluster).desired etcd kind) = [] :=
  (blueprint config cluster).created_nil etcd valid (atRest.owned.sound kind)
    (atRest.owned.owned kind) fun _ wanted => atRest.present wanted

/-- The deployments of a world at rest are those of the nodes. -/
theorem AtRest.rolling :
    (blueprint config cluster).Rolling etcd (world.collections.get .deployment)
      (Diff.modified
        ((blueprint config cluster).found .deployment (world.collections.get .deployment))
        ((blueprint config cluster).desired etcd .deployment)) := by
  let b : Blueprint := blueprint config cluster
  have sound := atRest.owned.sound .deployment
  have owned := atRest.owned.owned .deployment
  have listed := b.listed_of_existing etcd valid atRest.owned.sound (atRest.existing valid)
  refine ⟨sound, atRest.unfailing _, fun _ wanted => listed _ (.inr rfl) _ wanted,
    fun existing among => ?_, rfl⟩
  have settled := atRest.settled .deployment (node_kinds (.inr rfl))
  have reading := b.isReading_found etcd valid sound owned
  obtain ⟨seen, stored⟩ := (reading existing).1 among
  have occupied : ((world.collections.get .deployment).stored (slotOf existing)).isSome = true := by
    rw [stored]
    rfl
  obtain ⟨object, wanted, slot⟩ := (settled.occupied _ seen occupied).resolve_left not_false
  have keys := ((b.belongs_desired etcd wanted).key_eq_iff (owned stored)).2 slot
  exact List.any_eq_true.2 ⟨object, wanted, decide_eq_true keys⟩

variable (registered : Resource.bundles.resolve cluster.version = .ok etcd)
  (available : Available config cluster world)

include registered available

/-- A pass over a world at rest makes up for one of the differences that deployments have. -/
theorem AtRest.rolled {stale : List Deployment}
    (rolling : (blueprint config cluster).Rolling etcd (world.collections.get .deployment) stale)
    (completed : (world.run (overCluster config cluster .apply).run).1 = .ok .completed) :
    (blueprint config cluster).Rolling etcd
      ((brought config cluster world).collections.get .deployment) stale.tail := by
  let b : Blueprint := blueprint config cluster
  have steady (kind : Kind) : (world.collections.get kind).Steady :=
    (atRest.owned.sound kind).steady (atRest.unfailing kind)
  have course := course_of_completed steady config valid registered completed
  have quiet : b.noted etcd .apply world.collections = { event := .apply } := by
    have none : ((b.care etcd .configMap).plan { event := .apply }
        (world.collections.get .configMap)).update = [] :=
      atRest.unmodified valid (by decide)
    rw [Blueprint.noted, none]
    rfl
  have made := course.made .deployment (node_kinds (.inr rfl))
  have planned : b.change etcd .apply world.collections .deployment =
      { update := stale.take 1 } := by
    rw [Blueprint.change, quiet]
    exact Blueprint.Rolling.plan_eq (b := b) valid rolling rfl rfl available
  have made : (b.care etcd .deployment).Made (world.collections.get .deployment)
      { update := stale.take 1 } ((brought config cluster world).collections.get .deployment) :=
    planned ▸ made
  exact Blueprint.Rolling.made (b := b) valid rolling made

end

section

variable {config : Config} {cluster : Cluster} {etcd : EtcdStorage} {world : World}
  (valid : cluster.isValid = true) (steady : ∀ kind, (world.collections.get kind).Steady)
  (registered : Resource.bundles.resolve cluster.version = .ok etcd)
  (completed : (world.run (overCluster config cluster .apply).run).1 = .ok .completed)
  (atRest : AtRest config cluster etcd (brought config cluster world))
  (available : Available config cluster world)
  (idle : Idle world.ledger (brought config cluster world).ledger)

include valid steady registered completed atRest available idle

/-- A completed pass that writes nothing leaves no object modified, not even a deployment. -/
theorem unmodified_of_idle {kind : Kind} {object held : Object kind}
    (wanted : object ∈ (blueprint config cluster).desired etcd kind)
    (stored : ((brought config cluster world).collections.get kind).stored (slotOf object) =
      some held) : held.isModified object = false := by
  let b : Blueprint := blueprint config cluster
  have alike (kind : Kind) : (world.collections.get kind).Alike
      ((brought config cluster world).collections.get kind) := (idle kind).alike
  by_cases isDeployment : kind = .deployment
  · subst isDeployment
    obtain ⟨⟨role, node⟩, mem, rfl⟩ := List.mem_map.1 wanted
    have existing (kind : Kind) :
        Diff.created (b.found kind (world.collections.get kind)) (b.desired etcd kind) = [] := by
      rw [← b.found_alike (alike kind)]
      exact atRest.existing valid kind
    have sound : world.collections.Sound := fun kind => (steady kind).sound
    have listed := b.listed_of_existing etcd valid sound existing
    have course := course_of_completed steady config valid registered completed
    by_contra differs
    have stale : b.Stale etcd world.collections (role, node) :=
      ⟨rfl, wanted, held, ((alike .deployment).stored _).symm.trans stored,
        Bool.eq_true_of_not_eq_false differs⟩
    obtain ⟨first, isFirst⟩ := exists_isFirst mem stale
    have rolled := (Course.rolled_iff (b := b) valid sound course listed
      (fun _ isNode => node_kinds isNode) available isFirst.mem).2 (.inl isFirst)
    exact rolled.ne sound ((alike .deployment).stored _)
  · by_cases among : kind ∈ kinds config etcd cluster
    · exact ((atRest.settled kind among).good object wanted not_false held stored).same isDeployment
    · rw [desired_nil config etcd cluster among] at wanted
      cases wanted

end

/-- A first pass in an empty world leaves a cluster at rest. -/
theorem atRest_brought (config : Config) {cluster : Cluster} (valid : cluster.isValid = true)
    {etcd : EtcdStorage} (registered : Resource.bundles.resolve cluster.version = .ok etcd) :
    AtRest config cluster etcd (brought config cluster {}) := by
  have owned : ({} : World).collections.Owned cluster.id := Reached.start.owned
  exact .of_completed valid owned Drawn.empty.unfailing registered
    (Drawn.empty.completed valid registered)

/-- A pass where nothing was leaves just what is wanted. -/
theorem records_brought (config : Config) {cluster : Cluster} (valid : cluster.isValid = true)
    {etcd : EtcdStorage} (registered : Resource.bundles.resolve cluster.version = .ok etcd)
    (kind : Kind) : ((brought config cluster {}).collections.get kind).Records
      ((blueprint config cluster).desired etcd kind) := by
  have atRest := atRest_brought config valid registered
  have drawn : Drawn _ (brought config cluster {}) := Drawn.empty.brought valid registered
  exact ⟨fun _ wanted => atRest.present wanted, drawn.drawn kind⟩

/-! ## Runs -/

/-- A cluster and what becomes of it. -/
structure Revision (former cluster : Cluster) (old etcd : EtcdStorage) : Prop where
  sameId : former.id = cluster.id
  validFormer : former.isValid = true
  valid : cluster.isValid = true
  registeredFormer : Resource.bundles.resolve former.version = .ok old
  registered : Resource.bundles.resolve cluster.version = .ok etcd

namespace Revision

variable {former cluster : Cluster} {old etcd : EtcdStorage}
  (revision : Revision former cluster old etcd)

include revision

/-- The version says how etcd is kept. -/
theorem bundled (sameVersion : former.version = cluster.version) : old = etcd := by
  have resolved := revision.registeredFormer
  rw [sameVersion, revision.registered] at resolved
  exact (Except.ok.inj resolved).symm

/-- Both clusters have the same namespace, but for its labels. -/
theorem slot_namespaceObject (config : Config) :
    slotOf (blueprint config former).namespaceObject =
      slotOf (blueprint config cluster).namespaceObject :=
  congrArg (Slot.make none) revision.sameId

omit revision in
/-- Of the kinds that the cluster does not look after the former one wanted nothing either, unless
it was the only one of the two with volume claims. -/
theorem desired_nil {config : Config}
    (claims : old = .persistentVolume -> etcd = .persistentVolume) {kind : Kind}
    (absent : kind ∉ kinds config etcd cluster) :
    (blueprint config former).desired old kind = [] := by
  refine Pass.desired_nil config old former (fun among => absent ?_) _
  rw [kinds_eq] at among ⊢
  cases old <;> cases etcd
  · exact among
  · exact List.append_subset.2 ⟨List.append_subset.2 ⟨by decide, by decide⟩, by decide⟩ among
  · cases claims rfl
  · exact among

end Revision

/-- The former cluster is brought about where nothing was. Passes over the cluster of now follow,
between which the statuses of deployments change. -/
structure Edited (config : Config) (former cluster : Cluster) (start : Nat -> World) (last : Nat) :
    Prop where
  first : Restated (brought config former {}) (start 0)
  next : ∀ i < last, Restated (brought config cluster (start i)) (start (i + 1))

/-- What the two clusters want. -/
def eitherWants (config : Config) (former cluster : Cluster) (old etcd : EtcdStorage)
    (kind : Kind) : List (Object kind) :=
  (blueprint config former).desired old kind ++ (blueprint config cluster).desired etcd kind

namespace Edited

variable {config : Config} {former cluster : Cluster} {old etcd : EtcdStorage}
  {start : Nat -> World} {last i : Nat} (edited : Edited config former cluster start last)
  (revision : Revision former cluster old etcd)

include edited revision

/-- The first pass over the edited cluster starts from what the former one wanted. -/
theorem drawn_first : Drawn (fun kind => (blueprint config former).desired old kind) (start 0) :=
  (Drawn.empty.brought revision.validFormer revision.registeredFormer).restated edited.first

/-- Whatever is stored before a pass is written as one of the two clusters wants it. -/
theorem drawn (within : i ≤ last) :
    Drawn (eitherWants config former cluster old etcd) (start i) := by
  induction i with
  | zero =>
    have first := edited.drawn_first revision
    exact first.mono (first.wanted.append _ etcd) fun kind => List.subset_append_left _ _
  | succ i ih =>
    have before := ih (Nat.le_of_succ_le within)
    have after : Drawn _ (brought config cluster (start i)) :=
      before.brought revision.valid revision.registered
    refine (after.mono before.wanted fun kind object mem => ?_).restated (edited.next i within)
    rcases List.mem_append.1 mem with mem | mem
    · exact mem
    · exact List.mem_append_right _ mem

/-- Every pass over the edited cluster is completed. -/
theorem completed (within : i ≤ last) :
    ((start i).run (overCluster config cluster .apply).run).1 = .ok .completed :=
  (edited.drawn revision within).completed revision.valid revision.registered

/-- What every pass leaves was wanted by the former cluster or is wanted by the edited one. -/
theorem drawn_brought (within : i ≤ last) :
    Drawn (eitherWants config former cluster old etcd) (brought config cluster (start i)) := by
  have before := edited.drawn revision within
  refine (before.brought revision.valid revision.registered).mono before.wanted
    fun kind object mem => ?_
  rcases List.mem_append.1 mem with mem | mem
  · exact mem
  · exact List.mem_append_right _ mem

/-- Every pass leaves a world at rest, and before it everything belongs to the cluster. -/
theorem owned_atRest (within : i ≤ last) :
    (start i).collections.Owned cluster.id ∧
      AtRest config cluster etcd (brought config cluster (start i)) := by
  have rests {i : Nat} (within : i ≤ last) (owned : (start i).collections.Owned cluster.id) :
      AtRest config cluster etcd (brought config cluster (start i)) :=
    .of_completed revision.valid owned (edited.drawn revision within).unfailing revision.registered
      (edited.completed revision within)
  induction i with
  | zero =>
    have reached : Reached cluster.id (brought config former {}) :=
      Reached.start.calm config .apply revision.sameId
    have owned := edited.first.owned reached.owned
    exact ⟨owned, rests within owned⟩
  | succ i ih =>
    have owned := (edited.next i within).owned (ih (Nat.le_of_succ_le within)).2.owned
    exact ⟨owned, rests within owned⟩

/-- Before every pass but the first the edited cluster is at rest. -/
theorem atRest_next (within : i < last) : AtRest config cluster etcd (start (i + 1)) :=
  (edited.next i within).atRest (edited.owned_atRest revision within.le).2

section

variable (available : ∀ i ≤ last, Available config cluster (start i))

include available

/-- After the first pass the deployments that differ are made up for one by one. -/
theorem rolling (within : i < last) :
    ∃ stale, stale.length ≤ cluster.nodes.length - i ∧ (blueprint config cluster).Rolling etcd
      ((start (i + 1)).collections.get .deployment) stale := by
  induction i with
  | zero =>
    have atRest := edited.atRest_next revision within
    refine ⟨_, ?_, atRest.rolling revision.valid⟩
    refine (List.length_filter_le _ _).trans ?_
    exact (List.length_map _).le
  | succ i ih =>
    obtain ⟨stale, short, rolling⟩ := ih (Nat.lt_of_succ_lt within)
    have atRest := edited.atRest_next revision (Nat.lt_of_succ_lt within)
    have left := atRest.rolled revision.valid revision.registered (available _ within.le)
      rolling (edited.completed revision within.le)
    have restated := edited.next (i + 1) within
    refine ⟨stale.tail, ?_, Blueprint.Rolling.restated (b := blueprint config cluster)
      revision.valid left (restated.sound left.sound) ((restated.faults _).trans left.unfailing)
      (restated.meddled left.sound)⟩
    rw [List.length_tail]
    omega

/-- After as many passes as there are nodes, and one more, a pass writes nothing. -/
theorem comes_to_rest (enough : cluster.nodes.length < last) :
    ∃ i ≤ last, Idle (start i).ledger (brought config cluster (start i)).ledger := by
  obtain ⟨stale, short, rolling⟩ := edited.rolling revision available enough
  obtain rfl := List.length_eq_zero_iff.1 (Nat.le_zero.1 (short.trans (Nat.sub_self _).le))
  have atRest := edited.atRest_next revision enough
  refine ⟨cluster.nodes.length + 1, enough, (atRest.rests revision.valid revision.registered ?_).2⟩
  rintro object ⟨-, wanted, modified⟩
  have among := (Blueprint.Rolling.mem_modified_iff (b := blueprint config cluster) revision.valid
    rolling wanted).2 modified
  rw [rolling.differ] at among
  cases among

end

/-! ### What is inherited -/

/-- The first pass over the edited cluster starts from what the former one recorded. -/
theorem records_first (kind : Kind) :
    ((start 0).collections.get kind).Records ((blueprint config former).desired old kind) := by
  have atRest := edited.first.atRest
    (atRest_brought config revision.validFormer revision.registeredFormer)
  exact ⟨fun _ wanted => atRest.present wanted, (edited.drawn_first revision).drawn kind⟩

/-- The kinds that the cluster does not look after are left as they were. -/
theorem untouched {kind : Kind} (absent : kind ∉ kinds config etcd cluster) (within : i ≤ last) :
    ((start 0).collections.get kind).Alike ((brought config cluster (start i)).collections.get kind) := by
  have step {i : Nat} (within : i ≤ last) :
      ((start i).collections.get kind).Alike
        ((brought config cluster (start i)).collections.get kind) :=
    (course_of_completed (edited.drawn revision within).steady config revision.valid
      revision.registered (edited.completed revision within)).untouched kind absent
  induction i with
  | zero => exact step within
  | succ i ih =>
    have notDeployment : kind ≠ .deployment := fun same => absent (node_kinds (.inr same))
    refine (ih (Nat.le_of_succ_le within)).trans ?_
    rw [← (edited.next i within).get_of_ne notDeployment]
    exact step within

/-- An object that is not told from the one that is wanted is kept, but for deployments. -/
theorem kept {kind : Kind} (among : kind ∈ kinds config etcd cluster)
    (notDeployment : kind ≠ .deployment) {earlier object : Object kind}
    (memEarlier : earlier ∈ (blueprint config former).desired old kind)
    (wanted : object ∈ (blueprint config cluster).desired etcd kind)
    (slot : slotOf earlier = slotOf object)
    (unmodified : earlier.recorded.isModified object = false) (within : i ≤ last) :
    ∃ held, ((brought config cluster (start i)).collections.get kind).stored (slotOf object) =
        some held ∧ held.declared = earlier.recorded := by
  let b : Blueprint := blueprint config cluster
  have step {i : Nat} (within : i ≤ last)
      (before : ∃ held, ((start i).collections.get kind).stored (slotOf object) = some held ∧
        held.declared = earlier.recorded) :
      ∃ held, ((brought config cluster (start i)).collections.get kind).stored (slotOf object) =
        some held ∧ held.declared = earlier.recorded := by
    obtain ⟨held, stored, same⟩ := before
    have drawn := edited.drawn revision within
    have course := course_of_completed drawn.steady config revision.valid revision.registered
      (edited.completed revision within)
    have modified : held.isModified object = false := by
      rw [← Object.isModified_declared, same, unmodified]
    refine ⟨held, ?_, same⟩
    exact Blueprint.keeps_unmodified (b := b) revision.valid (Blueprint.noted_event _)
      (drawn.sound kind) ((edited.owned_atRest revision within).1.owned kind) notDeployment
      (course.made kind among) wanted stored modified
  induction i with
  | zero =>
    have apart : Apart ((blueprint config former).desired old kind) :=
      (blueprint config former).apart_desired old revision.validFormer
    obtain ⟨held, stored, same⟩ := (edited.records_first revision kind).held apart memEarlier
    rw [slot] at stored
    exact step within ⟨held, stored, same⟩
  | succ i ih =>
    refine step within ?_
    rw [(edited.next i within).get_of_ne notDeployment]
    exact ih (Nat.le_of_succ_le within)

section

variable (available : ∀ i ≤ last, Available config cluster (start i))

include available

/-- When a pass finds nothing to do, each kind that the cluster looks after is inherited. -/
theorem inherits (within : i ≤ last)
    (idle : Idle (start i).ledger (brought config cluster (start i)).ledger) {kind : Kind}
    (among : kind ∈ kinds config etcd cluster) :
    ((brought config cluster (start i)).collections.get kind).Inherits
      ((blueprint config former).desired old kind)
      ((blueprint config cluster).desired etcd kind) := by
  let first : Blueprint := blueprint config former
  let b : Blueprint := blueprint config cluster
  have drawn := (edited.drawn_brought revision within).drawn kind
  have atRest := (edited.owned_atRest revision within).2
  have apart : Apart (b.desired etcd kind) := b.apart_desired etcd revision.valid
  have unmodified {object held : Object kind} (wanted : object ∈ b.desired etcd kind)
      (stored : ((brought config cluster (start i)).collections.get kind).stored (slotOf object) =
        some held) : held.isModified object = false :=
    unmodified_of_idle revision.valid (edited.drawn revision within).steady revision.registered
      (edited.completed revision within) atRest (available i within) idle wanted stored
  refine ⟨fun object wanted => ?_, fun slot occupied => ?_, fun notDeployment earlier mem object
    wanted slot same => edited.kept revision among notDeployment mem wanted slot same within⟩
  · obtain ⟨held, stored⟩ := Option.isSome_iff_exists.1 (atRest.present wanted)
    refine ⟨held, stored, ?_⟩
    obtain ⟨origin, mem, slot, same⟩ := drawn _ held stored
    rcases List.mem_append.1 mem with before | now
    · refine .inr ⟨origin, before, slot, ?_, same⟩
      rw [← same, Object.isModified_declared]
      exact unmodified wanted stored
    · obtain rfl := apart.eq now wanted slot
      exact .inl same
  · obtain ⟨held, stored⟩ := Option.isSome_iff_exists.1 occupied
    obtain ⟨origin, mem, rfl, -⟩ := drawn _ held stored
    rcases List.mem_append.1 mem with before | now
    · have home : Blueprint.Home b.cluster.id old kind (slotOf origin) :=
        ⟨first, revision.sameId, List.mem_map_of_mem before⟩
      have seen := (b.sees_storage old etcd _).1 (b.sees_home home)
      exact ((atRest.settled kind among).occupied _ seen occupied).resolve_left not_false
    · exact ⟨origin, now, rfl⟩

end

end Edited

end Pass

end GuestFleet
