import GuestFleet.Proofs.Cluster.Course

/-!
# Worlds that are provisioned

What passes that bring clusters with one id about can have made of a world that was empty, when
all of them keep etcd in the same way: every stored object is in a slot that some cluster with
the id wants, although the passes may have broken off anywhere and the clusters may have had other
nodes.
-/

namespace GuestFleet

open Kube (Kind Object)
open Store (Collection Collections Fault Slot Storm World slotOf)
open Request (slotsOf)

/-! ## Where objects are -/

/-- Every stored object is in a slot of a home. -/
def Store.Collections.Housed (all : Collections) (home : Kind -> Slot -> Prop) : Prop :=
  ∀ kind slot, ((all.get kind).stored slot).isSome = true -> home kind slot

namespace Store.Collections

variable {all other : Collections} {home : Kind -> Slot -> Prop}

/-- Nothing in an empty world lacks a home. -/
theorem housed_empty : ({} : Collections).Housed home := by
  intro kind slot held
  cases kind <;> cases held

/-- What is left of a home, with slots of the home written, is housed. -/
theorem Housed.within (housed : all.Housed home) {slots : Kind -> List Slot}
    (inHome : ∀ kind, ∀ slot ∈ slots kind, home kind slot)
    (within : ∀ kind, Collection.Within (slots kind) (all.get kind) (other.get kind)) :
    other.Housed home := by
  intro kind slot held
  by_cases written : slot ∈ slots kind
  · exact inHome kind slot written
  · rcases within kind slot written with same | gone
    · rw [same] at held
      exact housed kind slot held
    · rw [gone] at held
      cases held

/-- Objects are where they are whatever may fail. -/
theorem Housed.amid {world : World} (housed : world.collections.Housed home) (storm : Storm) :
    (world.amid storm).collections.Housed home := by
  intro kind slot held
  rw [World.amid, World.get_awaiting] at held
  exact housed kind slot held

/-- Collections without a home for any object are empty. -/
theorem Housed.objects_nil (sound : all.Sound) (housed : all.Housed fun _ _ => False)
    (kind : Kind) : (all.get kind).objects = [] := by
  cases objects : (all.get kind).objects with
  | nil => rfl
  | cons entry entries =>
    have mem : (entry.1, entry.2) ∈ (all.get kind).objects := by
      rw [objects]
      exact List.mem_cons_self
    have stored := (sound kind).stored_of_mem mem
    exact (housed kind entry.1 (by rw [stored]; rfl)).elim

end Store.Collections

namespace Blueprint

/-- The slots that clusters with an id want, whatever else they are like. -/
def Home (id : String) (etcd : EtcdStorage) (kind : Kind) (slot : Slot) : Prop :=
  ∃ b : Blueprint, b.cluster.id = id ∧ slot ∈ slotsOf (b.desired etcd kind)

/-- Objects that are not found by labels have the same slots for all clusters with an id. -/
theorem slots_named {first second : Blueprint} (same : first.cluster.id = second.cluster.id)
    (etcd : EtcdStorage) {kind : Kind} (named : kind ≠ .configMap ∧
      kind ≠ .persistentVolumeClaim ∧ kind ≠ .deployment) :
    slotsOf (first.desired etcd kind) = slotsOf (second.desired etcd kind) := by
  cases kind with
  | «namespace» => exact congrArg (fun id => [Slot.make none id]) same
  | serviceAccount => exact congrArg (fun id => [Slot.make (some id) id]) same
  | clusterRoleBinding =>
    exact congrArg (fun id => [Slot.make none id, Slot.make none (id ++ "-psp")]) same
  | configMap => exact absurd rfl named.1
  | persistentVolumeClaim => exact absurd rfl named.2.1
  | deployment => exact absurd rfl named.2.2
  | ingress =>
    exact congrArg (fun id => [Slot.make (some id) "etcd", Slot.make (some id) "api"]) same
  | service =>
    exact congrArg
      (fun id => [Slot.make (some id) Role.master.name, Slot.make (some id) Role.worker.name]) same
  | pod => rfl

/-- A cluster looks into every slot that a cluster with its id wants. -/
theorem sees_home (b : Blueprint) {etcd : EtcdStorage} {kind : Kind} {slot : Slot}
    (home : Home b.cluster.id etcd kind slot) : b.Sees etcd kind slot := by
  obtain ⟨other, same, mem⟩ := home
  obtain ⟨object, wanted, rfl⟩ := List.mem_map.1 mem
  have territory := (other.belongs_desired etcd wanted).slot
  have named (isNamed : kind ≠ .configMap ∧ kind ≠ .persistentVolumeClaim ∧ kind ≠ .deployment) :
      ∃ own ∈ b.desired etcd kind, slotOf own = slotOf object := by
    rw [slots_named same etcd isNamed] at mem
    exact List.mem_map.1 mem
  rw [same] at territory
  cases kind with
  | configMap => exact territory
  | persistentVolumeClaim => exact territory
  | deployment => exact territory
  | _ => exact named (by decide)

end Blueprint

/-! ## What happens in between -/

/-- What may happen to a world between two passes: failures that may pass are ordered, or called
off, and the status of deployments changes. -/
inductive Meanwhile (world : World) : World -> Prop
  | nothing : Meanwhile world world
  | fail {later : World} (kind : Kind) {faults : List Fault}
      (passing : ∀ fault ∈ faults, fault.Passes) (earlier : Meanwhile world later) :
      Meanwhile world
        { later with
          collections :=
            later.collections.set kind { later.collections.get kind with faults := faults } }
  | status {later : World} {deployment : Object .deployment}
      (status : Option Kube.DeploymentStatus) (mem : deployment ∈ later.objects .deployment)
      (earlier : Meanwhile world later) :
      Meanwhile world (later.insert (deployment.withStatus status))

namespace Meanwhile

variable {world later : World} (meanwhile : Meanwhile world later)

include meanwhile

/-- What may happen between two passes leads from reachable worlds to reachable ones. -/
theorem reached {id : String} (reached : Reached id world) : Reached id later := by
  induction meanwhile with
  | nothing => exact reached
  | fail kind _ _ ih => exact ih.fail kind _
  | status status mem _ ih => exact ih.status status mem

/-- No failures are ordered but such as may pass. -/
theorem passing
    (passing : ∀ kind, ∀ fault ∈ (world.collections.get kind).faults, fault.Passes) :
    ∀ kind, ∀ fault ∈ (later.collections.get kind).faults, fault.Passes := by
  induction meanwhile with
  | nothing => exact passing
  | fail kind passing _ ih =>
    intro other
    by_cases here : other = kind
    · subst here
      rw [Collections.get_set]
      exact passing
    · rw [Collections.get_set_of_ne _ _ here]
      exact ih other
  | status status mem _ ih =>
    intro other
    rw [World.collections_insert]
    by_cases here : other = .deployment
    · subst here
      rw [Collections.get_set]
      exact ih .deployment
    · rw [Collections.get_set_of_ne _ _ here]
      exact ih other

/-- Objects stay where they are. -/
theorem housed {id : String} (reached : Reached id world) {home : Kind -> Slot -> Prop}
    (housed : world.collections.Housed home) : later.collections.Housed home := by
  induction meanwhile with
  | nothing => exact housed
  | fail kind _ _ ih =>
    intro other
    by_cases here : other = kind
    · subst here
      rw [Collections.get_set]
      exact ih other
    · rw [Collections.get_set_of_ne _ _ here]
      exact ih other
  | @status _ _ status mem earlier ih =>
    intro other
    rw [World.collections_insert]
    by_cases here : other = .deployment
    · subst here
      rw [Collections.get_set]
      intro slot held
      rw [Collection.stored_insert] at held
      split_ifs at held with own
      · obtain ⟨⟨place, filedThere⟩, filed, rfl⟩ := List.mem_map.1 mem
        have sound := (earlier.reached reached).owned.sound .deployment
        have stored := sound.stored_of_mem filed
        have there : slotOf filedThere = place := sound.slotOf_stored stored
        have slotHere : slot = place := own.trans there
        refine ih .deployment slot ?_
        rw [slotHere, stored]
        rfl
      · exact ih .deployment slot held
    · rw [Collections.get_set_of_ne _ _ here]
      exact ih other

end Meanwhile

/-! ## Provisioned worlds -/

/-- The worlds that come of an empty one by passes that bring valid clusters with an id about,
all with etcd in the same storage, whatever failures that may pass are ordered meanwhile and
whatever happens in between. -/
inductive Provisioned (id : String) (etcd : EtcdStorage) : World -> Prop
  | start : Provisioned id etcd {}
  | apply {world : World} (config : Config) {cluster : Cluster} (valid : cluster.isValid = true)
      (isId : cluster.id = id) (registered : Resource.bundles.resolve cluster.version = .ok etcd)
      {storm : Storm} (passes : storm.Passes) (earlier : Provisioned id etcd world) :
      Provisioned id etcd (world.runAmid storm (Pass.overCluster config cluster .apply).run).2
  | meanwhile {world later : World} (earlier : Provisioned id etcd world)
      (between : Meanwhile world later) : Provisioned id etcd later

namespace Provisioned

variable {id : String} {etcd : EtcdStorage} {world : World}
  (provisioned : Provisioned id etcd world)

include provisioned

/-- Provisioned worlds are reachable. -/
theorem reached : Reached id world := by
  induction provisioned with
  | start => exact .start
  | apply config _ isId _ _ _ ih => exact .pass config .apply _ isId ih
  | meanwhile _ between ih => exact between.reached ih

/-- No failures are awaited but such as may pass. -/
theorem steady (kind : Kind) : (world.collections.get kind).Steady := by
  refine ⟨provisioned.reached.owned.sound kind, ?_⟩
  induction provisioned generalizing kind with
  | start =>
    intro fault mem
    cases kind <;> cases mem
  | apply config _ _ _ passes _ ih => exact World.passing_runAmid ih passes _ kind
  | meanwhile _ between ih => exact between.passing ih kind

/-- Every object is in a slot that some cluster with the id wants. -/
theorem housed : world.collections.Housed (Blueprint.Home id etcd) := by
  induction provisioned with
  | start => exact Collections.housed_empty
  | @apply world config cluster valid isId registered storm passes earlier ih =>
    have steady : ∀ kind, ((world.amid storm).collections.get kind).Steady :=
      fun kind => (earlier.steady kind).amid passes
    refine Collections.Housed.within (ih.amid storm) ?_
      (Pass.within_overCluster steady config valid registered .apply)
    intro kind slot mem
    exact ⟨Pass.blueprint config cluster, isId, mem⟩
  | meanwhile earlier between ih => exact between.housed earlier.reached ih

end Provisioned

end GuestFleet
