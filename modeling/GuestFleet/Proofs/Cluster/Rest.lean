import GuestFleet.Proofs.Cluster.Course

/-!
# Worlds at rest

A completed pass leaves a world in which the next one finds nothing to do but to roll nodes. Such
a world stays at rest when the status of deployments changes, and a pass over it is completed
without a write when no deployment differs from what is desired.
-/

namespace GuestFleet

open Kube (Kind Object)
open Store (Collection Collections Slot View World slotOf)
open Request (slotsOf)

/-! ## Several writes -/

section

variable {kind : Kind} (objects : List (Object kind)) (world : World)

/-- Writes objects one after the other, whatever is in their place. -/
def Store.World.writing : World := objects.foldl (fun world object => world.insert object) world

namespace Store.World

/-- Writing objects of one kind leaves the other kinds as they are. -/
theorem get_writing_of_ne {other : Kind} (ne : other ≠ kind) :
    (world.writing objects).collections.get other = world.collections.get other := by
  induction objects generalizing world with
  | nil => rfl
  | cons object objects ih =>
    refine (ih (world.insert object)).trans ?_
    rw [collections_insert, Collections.get_set_of_ne _ _ ne]

/-- Writing objects orders no failures. -/
theorem faults_writing (other : Kind) :
    ((world.writing objects).collections.get other).faults =
      (world.collections.get other).faults := by
  induction objects generalizing world with
  | nil => rfl
  | cons object objects ih =>
    exact (ih (world.insert object)).trans (world.faults_insert object other)

variable {objects}

/-- Writing objects leaves the other slots as they are. -/
theorem stored_writing_elsewhere {slot : Slot} (outside : slot ∉ slotsOf objects) :
    ((world.writing objects).collections.get kind).stored slot =
      (world.collections.get kind).stored slot := by
  induction objects generalizing world with
  | nil => rfl
  | cons object objects ih =>
    rw [slotsOf, List.map_cons, List.mem_cons, not_or] at outside
    refine (ih (world.insert object) outside.2).trans ?_
    rw [collections_insert, Collections.get_set, Collection.stored_insert, if_neg outside.1]

/-- What was written, and not written over, is there. -/
theorem stored_writing (apart : Apart objects) {object : Object kind} (mem : object ∈ objects) :
    ∃ version, ((world.writing objects).collections.get kind).stored (slotOf object) =
      some (object.dated version) := by
  induction objects generalizing world with
  | nil => cases mem
  | cons head rest ih =>
    obtain ⟨fresh, apartRest⟩ := List.nodup_cons.1 apart
    rcases List.mem_cons.1 mem with rfl | mem
    · have left := stored_writing_elsewhere (world.insert object) fresh
      rw [collections_insert, Collections.get_set, Collection.stored_insert, if_pos rfl] at left
      exact ⟨_, left⟩
    · exact ih (world.insert head) apartRest mem

end Store.World

variable {objects world}

/-- Writing what belongs to a cluster leaves all collections owned. -/
theorem Store.Collections.Owned.writing {id : String} (owned : world.collections.Owned id)
    (belong : ∀ object ∈ objects, Belongs id object) :
    (world.writing objects).collections.Owned id := by
  induction objects generalizing world with
  | nil => exact owned
  | cons object objects ih =>
    have first := owned.insert (belong object List.mem_cons_self)
    exact ih first fun other mem => belong other (List.mem_cons_of_mem _ mem)

end

/-! ## What is there -/

/-- When something is in the slot of every desired object, nothing is to be created. -/
theorem Blueprint.created_nil (b : Blueprint) (etcd : EtcdStorage)
    (valid : b.cluster.isValid = true) {kind : Kind} {c : Collection kind} (sound : c.Sound)
    (owned : c.Owned b.cluster.id)
    (present : ∀ object ∈ b.desired etcd kind, (c.stored (slotOf object)).isSome = true) :
    Diff.created (b.found kind c) (b.desired etcd kind) = [] := by
  have reading := b.isReading_found etcd valid sound owned
  apply List.eq_nil_iff_forall_not_mem.2
  intro object mem
  obtain ⟨wanted, absent⟩ :=
    (reading.mem_created sound owned (b.target_desired etcd valid kind)).1 mem
  have there := present object wanted
  rw [absent] at there
  cases there

namespace Pass

section

variable (config : Config) (cluster : Cluster) (etcd : EtcdStorage) (world : World)

/-- What a pass leaves that is to bring a cluster about. -/
abbrev brought : World := (world.run (overCluster config cluster .apply).run).2

/-- A pass over the cluster finds nothing to do but to roll nodes. -/
structure AtRest : Prop where
  owned : world.collections.Owned cluster.id
  unfailing : ∀ kind, (world.collections.get kind).faults = []
  settled : ∀ kind ∈ kinds config etcd cluster,
    Settled ((blueprint config cluster).Sees etcd kind)
      ((blueprint config cluster).desired etcd kind) (world.collections.get kind)

variable {config cluster etcd world} (valid : cluster.isValid = true)

include valid

/-- A completed pass leaves a world at rest. -/
theorem AtRest.of_completed (owned : world.collections.Owned cluster.id)
    (unfailing : ∀ kind, (world.collections.get kind).faults = [])
    (registered : Resource.bundles.resolve cluster.version = .ok etcd)
    (completed : (world.run (overCluster config cluster .apply).run).1 = .ok .completed) :
    AtRest config cluster etcd (brought config cluster world) := by
  have resolved := overCluster_eq config registered .apply
  have ownedBefore : world.ledger.collections.Owned cluster.id := owned
  have settles := run_settles config etcd cluster valid ownedBefore unfailing
  rw [← resolved] at settles
  have stands := View.ledger.ok_of_ends unfailing settles completed rfl
  refine ⟨stands.owned, fun kind => ?_, stands.reached⟩
  have fewer := stands.faults kind
  rw [World.ledger, unfailing kind] at fewer
  exact List.subset_nil.1 fewer

variable (atRest : AtRest config cluster etcd world)

include atRest

/-- What is at rest is not written when no deployment differs. -/
theorem AtRest.rests (registered : Resource.bundles.resolve cluster.version = .ok etcd)
    (same : ∀ object, ¬ Differs ((blueprint config cluster).desired etcd .deployment)
      (world.collections.get .deployment) object) :
    (world.run (overCluster config cluster .apply).run).1 = .ok .completed ∧
      Idle world.ledger (brought config cluster world).ledger := by
  have resolved := overCluster_eq config registered .apply
  have ownedBefore : world.ledger.collections.Owned cluster.id := atRest.owned
  have rests := run_rests config etcd cluster valid ownedBefore atRest.unfailing atRest.settled
  rw [← resolved] at rests
  have atEnd := View.ledger.run_of_ends atRest.unfailing rests
  obtain ⟨_, isOk, rfl, stands⟩ := Either.exists_ok atEnd fun _ => id
  refine ⟨isOk, fun kind => ?_⟩
  by_cases among : kind ∈ kinds config etcd cluster
  · rcases stands.reached kind among with unwritten | rolled
    · exact unwritten
    · obtain ⟨object, differs, -⟩ := rolled.replaced
      obtain rfl := differs.isDeployment
      exact absurd differs (same object)
  · have untouched : (brought config cluster world).ledger.collections.get kind =
        world.ledger.collections.get kind := stands.untouched kind among
    rw [untouched]
    exact .refl

omit valid in
/-- Where a cluster is at rest, everything that it wants is there. -/
theorem AtRest.present {kind : Kind} {object : Object kind}
    (wanted : object ∈ (blueprint config cluster).desired etcd kind) :
    ((world.collections.get kind).stored (slotOf object)).isSome = true := by
  by_cases among : kind ∈ kinds config etcd cluster
  · exact (atRest.settled kind among).present object wanted not_false
  · rw [desired_nil config etcd cluster among] at wanted
    cases wanted

/-- Of what is at rest only deployments may differ from what is desired. -/
theorem AtRest.unmodified {kind : Kind} (notDeployment : kind ≠ .deployment) :
    Diff.modified ((blueprint config cluster).found kind (world.collections.get kind))
      ((blueprint config cluster).desired etcd kind) = [] := by
  let b : Blueprint := blueprint config cluster
  have sound := atRest.owned.sound kind
  have owned := atRest.owned.owned kind
  have reading := b.isReading_found etcd valid sound owned
  apply List.eq_nil_iff_forall_not_mem.2
  intro object mem
  obtain ⟨wanted, existing, stored, differs⟩ :=
    (reading.mem_modified sound owned (b.target_desired etcd valid kind)).1 mem
  by_cases among : kind ∈ kinds config etcd cluster
  · have good := (atRest.settled kind among).good object wanted not_false existing stored
    cases (good.same notDeployment).symm.trans differs
  · rw [desired_nil config etcd cluster among] at wanted
    cases wanted

/-- What is at rest stops no pass. -/
theorem AtRest.goes (event : Event) :
    ¬ (blueprint config cluster).Stops event world.collections := by
  let b : Blueprint := blueprint config cluster
  rintro ⟨-, stopping⟩
  have among : Kind.namespace ∈ kinds config etcd cluster := List.mem_cons_self
  have reading := b.isReading_found etcd valid (atRest.owned.sound .namespace)
    (atRest.owned.owned .namespace)
  cases (Resource.calm_of_settled (atRest.settled _ among) reading).symm.trans stopping

/-- A deployment with another status is still at rest. -/
theorem AtRest.insert {deployment : Deployment}
    (wanted : deployment ∈ (blueprint config cluster).desired etcd .deployment)
    (status : Option Kube.DeploymentStatus) :
    AtRest config cluster etcd (world.insert (deployment.withStatus status)) := by
  let b : Blueprint := blueprint config cluster
  have belongs : Belongs cluster.id (deployment.withStatus status) :=
    (b.belongs_desired etcd wanted).congr rfl rfl rfl
  refine ⟨atRest.owned.insert belongs, fun kind => ?_, fun kind among => ?_⟩
  · rw [World.faults_insert]
    exact atRest.unfailing kind
  · rw [World.collections_insert]
    by_cases isDeployment : kind = .deployment
    · subst isDeployment
      rw [Collections.get_set]
      have slot : slotOf (deployment.withStatus status) = slotOf deployment := rfl
      have good : IsGood ((world.collections.get .deployment).versioned
          (deployment.withStatus status)) deployment :=
        ⟨rfl, fun notDeployment => absurd rfl notDeployment⟩
      have inserted := (atRest.settled .deployment among).insert (b.apart_desired etcd valid)
        wanted slot good
      exact inserted.mono (fun _ => And.left) (fun _ => And.left) fun _ surplus => surplus
    · rw [Collections.get_set_of_ne _ _ isDeployment]
      exact atRest.settled kind among

/-- Where a cluster is at rest, writing statuses of its deployments leaves it at rest. -/
theorem AtRest.writing {deployments : List Deployment}
    (wanted : deployments ⊆ (blueprint config cluster).desired etcd .deployment)
    (status : Option Kube.DeploymentStatus) :
    AtRest config cluster etcd
      (world.writing (deployments.map fun deployment => deployment.withStatus status)) := by
  induction deployments generalizing world with
  | nil => exact atRest
  | cons deployment deployments ih =>
    rw [List.cons_subset] at wanted
    exact ih (atRest.insert valid wanted.1 status) wanted.2

end

end Pass

end GuestFleet
