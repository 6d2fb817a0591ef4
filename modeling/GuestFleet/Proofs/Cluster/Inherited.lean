import GuestFleet.Proofs.Cluster.Origin
import GuestFleet.Proofs.Cluster.Rest

/-!
# What a cluster inherits

A world in which all objects were written for clusters is one that every pass over a cluster with
their id gets through. A pass that then finds nothing to do leaves, in every slot where the cluster
wants an object, that object, or an earlier one that the comparison does not tell from it.
-/

namespace GuestFleet

open Kube (Kind Object)
open Store (Collection Collections Slot World slotOf)
open Request (slotsOf)
open Pass (blueprint brought course_of_completed completed_of_able kinds overCluster)

variable {kind : Kind}

/-! ## Worlds of drawn objects -/

/-- Some clusters want the objects. -/
def Wanted (objects : (kind : Kind) -> List (Object kind)) : Prop :=
  ∀ kind, ∀ object ∈ objects kind, ∃ (b : Blueprint) (etcd : EtcdStorage),
    object ∈ b.desired etcd kind

section

variable {objects : (kind : Kind) -> List (Object kind)} (wanted : Wanted objects)

include wanted

/-- Objects that clusters want are drafts where they are merged. -/
theorem Wanted.drafted (kind : Kind) : Drafted (objects kind) := by
  intro isMerged object mem
  obtain ⟨b, etcd, among⟩ := wanted kind object mem
  exact b.draft_desired etcd isMerged among

/-- What clusters want stops no pass. -/
theorem Wanted.calm {object : Object kind} (mem : object ∈ objects kind) :
    object.recorded.stopsPass = false := by
  obtain ⟨b, etcd, among⟩ := wanted kind object mem
  cases kind with
  | «namespace» =>
    rw [List.mem_singleton.1 among]
    rfl
  | _ => rfl

/-- What another cluster wants may be added to what clusters want. -/
theorem Wanted.append (b : Blueprint) (etcd : EtcdStorage) :
    Wanted fun kind => objects kind ++ b.desired etcd kind := by
  intro kind object mem
  rcases List.mem_append.1 mem with before | now
  · exact wanted kind object before
  · exact ⟨b, etcd, now⟩

end

/-- Nothing is to fail, and every stored object is as an object of the list for its kind is
written. -/
structure Drawn (objects : (kind : Kind) -> List (Object kind)) (world : World) : Prop where
  wanted : Wanted objects
  sound : world.collections.Sound
  unfailing : ∀ kind, (world.collections.get kind).faults = []
  drawn : ∀ kind, (world.collections.get kind).DrawnFrom (objects kind)

namespace Drawn

variable {objects more : (kind : Kind) -> List (Object kind)} {world later : World}

/-- The empty world is drawn from nothing. -/
theorem empty : Drawn (fun _ => []) {} where
  wanted _ _ mem := by cases mem
  sound kind := by cases kind <;> exact Collection.sound_empty
  unfailing kind := by cases kind <;> rfl
  drawn kind := by cases kind <;> exact .empty

/-- What is drawn is steady, since it awaits no failures. -/
theorem steady (drawn : Drawn objects world) (kind : Kind) :
    (world.collections.get kind).Steady :=
  (drawn.sound kind).steady (drawn.unfailing kind)

/-- What is drawn from some objects is drawn from more of them. -/
theorem mono (drawn : Drawn objects world) (wanted : Wanted more)
    (within : ∀ kind, objects kind ⊆ more kind) : Drawn more world :=
  ⟨wanted, drawn.sound, drawn.unfailing, fun kind => (drawn.drawn kind).mono (within kind)⟩

/-- What is drawn is drawn whatever becomes of statuses. -/
theorem restated (drawn : Drawn objects world) (restated : Restated world later) :
    Drawn objects later where
  wanted := drawn.wanted
  sound := restated.sounds drawn.sound
  unfailing kind := (restated.faults kind).trans (drawn.unfailing kind)
  drawn kind := by
    by_cases isDeployment : kind = .deployment
    · subst isDeployment
      exact (drawn.drawn .deployment).restated (restated.meddled (drawn.sound .deployment))
    · rw [restated.get_of_ne isDeployment]
      exact drawn.drawn kind

section

variable {config : Config} {cluster : Cluster} {etcd : EtcdStorage} (drawn : Drawn objects world)

include drawn

/-- No pass stops at a namespace that was drawn. -/
theorem goes : ¬ (blueprint config cluster).Stops .apply world.collections := by
  rintro ⟨-, stopping⟩
  obtain ⟨held, among, stops⟩ := List.any_eq_true.1 stopping
  have stored := (blueprint config cluster).found_stored (drawn.sound .namespace) among
  obtain ⟨object, mem, -, same⟩ := drawn.drawn .namespace _ held stored
  have calm := drawn.wanted.calm mem
  rw [← same, Object.stopsPass_declared, stops] at calm
  cases calm

variable (valid : cluster.isValid = true)
  (registered : Resource.bundles.resolve cluster.version = .ok etcd)

include valid registered

/-- Every pass over drawn objects is completed. -/
theorem completed : (world.run (overCluster config cluster .apply).run).1 = .ok .completed := by
  refine completed_of_able drawn.sound drawn.unfailing config valid registered drawn.goes
    fun kind => ?_
  exact (blueprint config cluster).able_of_drawn valid (drawn.wanted.drafted kind)
    (drawn.drawn kind) (Blueprint.noted_event _) (drawn.sound kind)

/-- What a pass over drawn objects leaves was there before or is wanted. -/
theorem brought :
    Drawn (fun kind => objects kind ++ (blueprint config cluster).desired etcd kind)
      (Pass.brought config cluster world) := by
  have course := course_of_completed drawn.steady config valid registered
    (drawn.completed valid registered)
  refine ⟨drawn.wanted.append _ etcd, course.sound, fun kind => ?_, fun kind => ?_⟩
  · have fewer := course.faults kind
    have none : (world.ledger.collections.get kind).faults = [] := drawn.unfailing kind
    rw [none] at fewer
    exact List.subset_nil.1 fewer
  · by_cases among : kind ∈ kinds config etcd cluster
    · exact (blueprint config cluster).drawnFrom_made valid (drawn.wanted.drafted kind)
        (drawn.drawn kind) (drawn.sound kind) (course.made kind among)
    · exact ((drawn.drawn kind).alike (course.untouched kind among)).mono
        (List.subset_append_left _ _)

end

end Drawn

/-! ## Statuses of worlds at rest -/

/-- Whatever becomes of statuses, everything still belongs to the cluster. -/
theorem Restated.owned {world later : World} (restated : Restated world later) {id : String}
    (owned : world.collections.Owned id) : later.collections.Owned id := by
  induction restated with
  | refl => exact owned
  | status status mem earlier ih =>
    obtain ⟨⟨slot, _⟩, filed, rfl⟩ := List.mem_map.1 mem
    have stored := (ih.sound .deployment).stored_of_mem filed
    exact ih.insert ((ih.owned .deployment stored).congr rfl rfl rfl)

/-- What is at rest stays so when statuses change. -/
theorem Restated.atRest {world later : World} (restated : Restated world later) {config : Config}
    {cluster : Cluster} {etcd : EtcdStorage} (atRest : Pass.AtRest config cluster etcd world) :
    Pass.AtRest config cluster etcd later := by
  have owned := restated.owned atRest.owned
  have unfailing (kind : Kind) : (later.collections.get kind).faults = [] :=
    (restated.faults kind).trans (atRest.unfailing kind)
  refine ⟨owned, unfailing, fun kind among => ?_⟩
  have settled := atRest.settled kind among
  by_cases isDeployment : kind = .deployment
  · subst isDeployment
    have meddled := restated.meddled (atRest.owned.sound .deployment)
    have held (slot : Slot) : ((later.collections.get .deployment).stored slot).isSome =
        ((world.collections.get .deployment).stored slot).isSome := by
      rcases meddled slot with same | ⟨existing, status, version, before, now⟩
      · rw [same]
      · rw [before, now]
        rfl
    refine ⟨(owned.sound _).steady (unfailing _), fun object mem there => ?_,
      fun object mem fresh existing stored => ⟨rfl, fun notDeployment => absurd rfl notDeployment⟩,
      fun slot seen occupied => ?_⟩
    · rw [held]
      exact settled.present object mem there
    · rw [held] at occupied
      exact settled.occupied slot seen occupied
  · rw [restated.get_of_ne isDeployment]
    exact settled

/-! ## Records -/

/-- The collection holds the objects as they are written, and nothing else. -/
structure Store.Collection.Records (objects : List (Object kind)) (c : Collection kind) : Prop where
  present : ∀ object ∈ objects, (c.stored (slotOf object)).isSome = true
  drawn : c.DrawnFrom objects

/-- The collection has an object in every slot where one is wanted, and nowhere else: the one that
is wanted or a former one that the comparison does not tell from it. But for deployments such a
former one was kept. -/
structure Store.Collection.Inherits (former desired : List (Object kind)) (c : Collection kind) :
    Prop where
  wanted : ∀ object ∈ desired, ∃ held, c.stored (slotOf object) = some held ∧
    (held.declared = object.recorded ∨
      ∃ earlier ∈ former, slotOf earlier = slotOf object ∧
        earlier.recorded.isModified object = false ∧ held.declared = earlier.recorded)
  only : ∀ slot, (c.stored slot).isSome = true -> ∃ object ∈ desired, slotOf object = slot
  kept : kind ≠ .deployment -> ∀ earlier ∈ former, ∀ object ∈ desired,
    slotOf earlier = slotOf object -> earlier.recorded.isModified object = false ->
      ∃ held, c.stored (slotOf object) = some held ∧ held.declared = earlier.recorded

namespace Store.Collection

variable {objects former desired : List (Object kind)} {c d : Collection kind}

/-- What a collection records every alike one records. -/
theorem Records.alike (records : c.Records objects) (alike : c.Alike d) : d.Records objects := by
  refine ⟨fun object mem => ?_, records.drawn.alike alike⟩
  rw [alike.stored]
  exact records.present object mem

/-- What a collection records it holds in its slot, as it was written. -/
theorem Records.held (records : c.Records objects) (apart : Apart objects) {object : Object kind}
    (mem : object ∈ objects) :
    ∃ held, c.stored (slotOf object) = some held ∧ held.declared = object.recorded := by
  obtain ⟨held, stored⟩ := Option.isSome_iff_exists.1 (records.present object mem)
  obtain ⟨origin, among, slot, same⟩ := records.drawn _ held stored
  obtain rfl := apart.eq among mem slot
  exact ⟨held, stored, same⟩

/-- What records the same objects holds the same in every slot. -/
theorem Records.same (records : c.Records objects) (other : d.Records objects)
    (apart : Apart objects) (slot : Slot) :
    (d.stored slot).map Object.declared = (c.stored slot).map Object.declared := by
  by_cases own : ∃ object ∈ objects, slotOf object = slot
  · obtain ⟨object, mem, rfl⟩ := own
    obtain ⟨held, stored, same⟩ := records.held apart mem
    obtain ⟨heldOther, storedOther, sameOther⟩ := other.held apart mem
    rw [stored, storedOther, Option.map_some, Option.map_some, same, sameOther]
  · have none {e : Collection kind} (drawn : e.DrawnFrom objects) : e.stored slot = none := by
      by_contra occupied
      obtain ⟨held, stored⟩ := Option.ne_none_iff_exists'.1 occupied
      obtain ⟨object, mem, filed, -⟩ := drawn slot held stored
      exact own ⟨object, mem, filed⟩
    rw [none records.drawn, none other.drawn]

/-- Where the comparison tells all former objects apart, nothing is inherited from them. -/
theorem Inherits.records (inherits : c.Inherits former desired)
    (told : ∀ earlier ∈ former, ∀ object ∈ desired, slotOf earlier = slotOf object ->
      earlier.recorded.isModified object = false -> earlier = object) : c.Records desired := by
  have held {object : Object kind} (mem : object ∈ desired) :
      ∃ held, c.stored (slotOf object) = some held ∧ held.declared = object.recorded := by
    obtain ⟨held, stored, same | ⟨earlier, among, slot, unmodified, same⟩⟩ :=
      inherits.wanted object mem
    · exact ⟨held, stored, same⟩
    · obtain rfl := told earlier among object mem slot unmodified
      exact ⟨held, stored, same⟩
  refine ⟨fun object mem => ?_, fun slot now stored => ?_⟩
  · obtain ⟨now, stored, -⟩ := held mem
    rw [stored]
    rfl
  · obtain ⟨object, mem, rfl⟩ := inherits.only slot (Option.isSome_iff_exists.2 ⟨now, stored⟩)
    obtain ⟨other, here, same⟩ := held mem
    obtain rfl := Option.some.inj (here.symm.trans stored)
    exact ⟨object, mem, rfl, same⟩

/-- Where the comparison tells no former object from the wanted one of its slot, nothing changes. -/
theorem Inherits.records_former (inherits : c.Inherits former desired)
    (notDeployment : kind ≠ .deployment)
    (earlier : ∀ object ∈ desired, ∃ earlier ∈ former, slotOf earlier = slotOf object ∧
      earlier.recorded.isModified object = false)
    (later : ∀ earlier ∈ former, ∃ object ∈ desired, slotOf object = slotOf earlier) :
    c.Records former := by
  refine ⟨fun object mem => ?_, fun slot now stored => ?_⟩
  · obtain ⟨wanted, among, slot⟩ := later object mem
    obtain ⟨held, stored, -⟩ := inherits.wanted wanted among
    rw [← slot, stored]
    rfl
  · obtain ⟨object, mem, rfl⟩ := inherits.only slot (Option.isSome_iff_exists.2 ⟨now, stored⟩)
    obtain ⟨origin, among, slot, unmodified⟩ := earlier object mem
    obtain ⟨held, here, same⟩ := inherits.kept notDeployment origin among object mem slot unmodified
    obtain rfl := Option.some.inj (here.symm.trans stored)
    exact ⟨origin, among, slot, same⟩

end Store.Collection

/-- Both worlds hold the same objects in the same slots, whatever their versions and, of
deployments, their statuses. -/
def Store.World.Matches (world other : World) : Prop :=
  ∀ (kind : Kind) (slot : Slot),
    ((other.collections.get kind).stored slot).map Object.declared =
      ((world.collections.get kind).stored slot).map Object.declared

end GuestFleet
