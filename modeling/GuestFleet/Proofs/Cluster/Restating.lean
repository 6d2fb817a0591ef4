import GuestFleet.Proofs.Cluster.Rounds

/-!
# Deployments on their way

Between passes the statuses of deployments change, in any order and any number of times. Nothing
else changes with them: neither other kinds nor what a deployment is compared by.
-/

namespace GuestFleet

open Kube (Kind Object)
open Store (Collection World slotOf)

namespace Store.World

variable {world : World} {kind : Kind}

/-- The objects of a kind are those that are stored in their slots. -/
theorem mem_objects (sound : (world.collections.get kind).Sound) {object : Object kind} :
    object ∈ world.objects kind <->
      (world.collections.get kind).stored (slotOf object) = some object := by
  constructor
  · intro mem
    obtain ⟨⟨filed, _⟩, entry, rfl⟩ := List.mem_map.1 mem
    have own := sound.filed _ entry
    rw [own]
    exact sound.stored_of_mem entry
  · intro stored
    exact List.mem_map.2 ⟨_, Store.mem_of_lookup stored, rfl⟩

/-- The objects of a sound collection are in slots apart. -/
theorem apart_objects (sound : (world.collections.get kind).Sound) :
    Apart (world.objects kind) := by
  have slots : (world.objects kind).map slotOf =
      (world.collections.get kind).objects.map Prod.fst := by
    rw [World.objects, List.map_map]
    exact List.map_congr_left fun entry mem => sound.filed entry mem
  rw [Apart, slots]
  exact sound.inOrder.nodup

end Store.World

/-- Others have written the statuses of deployments. -/
inductive Restated (world : World) : World -> Prop where
  | refl : Restated world world
  | status {later : World} {deployment : Object .deployment}
      (status : Option Kube.DeploymentStatus) (mem : deployment ∈ later.objects .deployment)
      (earlier : Restated world later) :
      Restated world (later.insert (deployment.withStatus status))

namespace Restated

variable {world later : World} (restated : Restated world later)

include restated

/-- Statuses are those of deployments alone. -/
theorem get_of_ne {kind : Kind} (ne : kind ≠ .deployment) :
    later.collections.get kind = world.collections.get kind := by
  induction restated with
  | refl => rfl
  | status status mem earlier ih =>
    rw [World.collections_insert, Store.Collections.get_set_of_ne _ _ ne]
    exact ih

/-- New statuses order no failures. -/
theorem faults (kind : Kind) :
    (later.collections.get kind).faults = (world.collections.get kind).faults := by
  induction restated with
  | refl => rfl
  | status status mem earlier ih => exact (World.faults_insert _ _ kind).trans ih

/-- New statuses leave sound deployments sound. -/
theorem sound (sound : (world.collections.get .deployment).Sound) :
    (later.collections.get .deployment).Sound := by
  induction restated with
  | refl => exact sound
  | status status mem earlier ih =>
    rw [World.collections_insert, Store.Collections.get_set]
    exact ih.insert _

/-- New statuses leave all collections sound. -/
theorem sounds (sounds : world.collections.Sound) : later.collections.Sound := by
  intro kind
  by_cases isDeployment : kind = .deployment
  · subst isDeployment
    exact restated.sound (sounds .deployment)
  · rw [restated.get_of_ne isDeployment]
    exact sounds kind

/-- Every deployment is as it was, but for its status and its version. -/
theorem meddled (sound : (world.collections.get .deployment).Sound) :
    Meddled Object.withStatus (world.collections.get .deployment)
      (later.collections.get .deployment) := by
  induction restated with
  | refl => exact fun slot => .inl rfl
  | @status later deployment status mem earlier ih =>
    have soundLater := earlier.sound sound
    have stored := (World.mem_objects soundLater).1 mem
    intro slot
    rw [World.collections_insert, Store.Collections.get_set, Collection.stored_insert]
    split_ifs with own
    · subst own
      refine .inr ?_
      rcases ih (slotOf deployment) with same | ⟨existing, part, version, held, written⟩
      · exact ⟨deployment, status, _, same.symm.trans stored, rfl⟩
      · -- The status that was written last is the one that counts.
        obtain rfl := Option.some.inj (written.symm.trans stored)
        exact ⟨existing, status, _, held, rfl⟩
    · exact ih slot

end Restated

/-! ## All at once -/

/-- The status of a deployment with its one pod available. -/
def Pass.running : Kube.DeploymentStatus := { availableReplicas := some 1, replicas := some 1 }

section

variable {world later : World} (status : Option Kube.DeploymentStatus)

/-- All deployments get the same status. -/
def Store.World.marking (world : World) : World :=
  world.writing ((world.objects .deployment).map fun deployment => deployment.withStatus status)

/-- Writing the status of one deployment leaves the others to be written. -/
theorem Restated.writing (earlier : Restated world later) {deployments : List (Object .deployment)}
    (apart : Apart deployments)
    (stored : ∀ deployment ∈ deployments,
      (later.collections.get .deployment).stored (slotOf deployment) = some deployment) :
    Restated world
      (later.writing (deployments.map fun deployment => deployment.withStatus status)) := by
  induction deployments generalizing later with
  | nil => exact earlier
  | cons deployment rest ih =>
    obtain ⟨fresh, apartRest⟩ := List.nodup_cons.1 apart
    have held := Store.mem_of_lookup (stored deployment List.mem_cons_self)
    have mem : deployment ∈ later.objects .deployment := List.mem_map.2 ⟨_, held, rfl⟩
    refine ih (earlier.status status mem) apartRest fun other among => ?_
    have ne : slotOf other ≠ slotOf (deployment.withStatus status) := by
      intro same
      exact fresh (same ▸ List.mem_map_of_mem among)
    rw [World.collections_insert, Store.Collections.get_set, Collection.stored_insert, if_neg ne]
    exact stored other (List.mem_cons_of_mem _ among)

/-- Marking all deployments is a change of statuses. -/
theorem Restated.marking (sound : (world.collections.get .deployment).Sound) :
    Restated world (world.marking status) :=
  Restated.refl.writing status (World.apart_objects sound) fun _ mem =>
    (World.mem_objects sound).1 mem

/-- Every deployment that is stored by then is one that was there, with the status. -/
theorem Store.World.stored_marking (sound : (world.collections.get .deployment).Sound)
    {slot : Slot} {now : Object .deployment}
    (stored : ((world.marking status).collections.get .deployment).stored slot = some now) :
    ∃ existing version, (world.collections.get .deployment).stored slot = some existing ∧
      now = (existing.withStatus status).dated version := by
  have restated := Restated.marking status sound
  obtain ⟨existing, held⟩ : ∃ existing, (world.collections.get .deployment).stored slot =
      some existing := by
    rcases restated.meddled sound slot with same | ⟨existing, _, _, held, -⟩
    · exact ⟨now, same.symm.trans stored⟩
    · exact ⟨existing, held⟩
  obtain rfl : slotOf existing = slot := sound.slotOf_stored held
  have apart : Apart ((world.objects .deployment).map
      fun deployment => deployment.withStatus status) := by
    rw [Apart, List.map_map]
    exact World.apart_objects sound
  obtain ⟨version, marked⟩ := World.stored_writing world apart
    (List.mem_map_of_mem ((World.mem_objects sound).2 held))
  exact ⟨existing, version, held, Option.some.inj (stored.symm.trans marked)⟩

end

end GuestFleet
