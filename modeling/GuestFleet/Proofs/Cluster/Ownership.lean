import GuestFleet.Proofs.Change.Differences
import GuestFleet.Proofs.Resource.Confined
import GuestFleet.Proofs.Store.Ledger

/-!
# Worlds of one cluster

Whatever passes over clusters with one id have done to a world that was empty, also where
they broke off, every object in it belongs to the cluster with that id: passes write
nothing else, and nothing that others do to deployments takes them from the cluster.
-/

namespace GuestFleet

open Kube (Kind Object)
open Store (Collection Collections Command.Effect Fault Ledger Storm View World slotOf)

variable {id : String} {kind : Kind}

/-! ## Ownership of collections -/

namespace Store.Collection

variable {c : Collection kind}

/-- An empty collection is owned by every cluster. -/
theorem owned_empty : ({} : Collection kind).Owned id := by
  intro slot object stored
  cases stored

/-- Writing what belongs to a cluster leaves its collections owned. -/
theorem Owned.insert (owned : c.Owned id) {object : Object kind} (belongs : Belongs id object) :
    (c.insert object).Owned id := by
  intro slot written stored
  rw [stored_insert] at stored
  split_ifs at stored with here
  · rw [← Option.some.inj stored]
    exact belongs.congr rfl rfl rfl
  · exact owned stored

/-- Emptying slots leaves collections owned. -/
theorem Owned.erase (owned : c.Owned id) (slot : Slot) : (c.erase slot).Owned id := by
  intro other object stored
  rw [stored_erase] at stored
  split_ifs at stored
  exact owned stored

end Store.Collection

/-- Sound collections in which every object belongs to the cluster with an id. -/
structure Store.Collections.Owned (all : Collections) (id : String) : Prop where
  sound : all.Sound
  owned : ∀ kind, (all.get kind).Owned id

/-- What is owned does not depend on what is awaited. -/
theorem Store.Collections.owned_awaiting {world : World} {hazards : Kind -> List Fault} :
    (∀ kind, ((world.awaiting hazards).collections.get kind).Owned id) <->
      ∀ kind, (world.collections.get kind).Owned id := by
  constructor
  · intro owned kind slot object stored
    have here := owned kind
    rw [World.get_awaiting] at here
    exact here stored
  · intro owned kind
    rw [World.get_awaiting]
    exact fun slot object stored => owned kind stored

/-- A command for a cluster leaves no object that belongs to another one. -/
theorem Command.IsFor.owned {other : Kind} {command : Command} (isFor : command.IsFor id kind)
    {c d : Collection other} (effect : Command.Effect command c d) (owned : c.Owned id) :
    d.Owned id := by
  rcases effect with alike | ⟨object, isWrite, alike⟩ | ⟨space, name, grace, rfl, alike⟩
  · exact alike.owned owned
  · have belongs : Belongs id object := by
      rcases isWrite with rfl | rfl
      · exact isFor.2
      · exact isFor.2
    exact alike.owned (owned.insert belongs)
  · exact alike.owned (owned.erase _)

/-- A command on objects of one kind leaves the other collections as they are. -/
theorem Command.IsFor.elsewhere {command : Command} (isFor : command.IsFor id kind)
    (world : World) {other : Kind} (ne : other ≠ kind) :
    (World.answer command world).2.collections.get other = world.collections.get other := by
  cases command with
  | get own space name =>
    obtain rfl : own = kind := isFor
    exact Collections.get_set_of_ne _ _ ne
  | list own space selector =>
    obtain rfl : own = kind := isFor
    exact Collections.get_set_of_ne _ _ ne
  | create own object =>
    obtain rfl : own = kind := isFor.1
    exact Collections.get_set_of_ne _ _ ne
  | replace own object =>
    obtain rfl : own = kind := isFor.1
    exact Collections.get_set_of_ne _ _ ne
  | delete own space name grace =>
    obtain rfl : own = kind := isFor.1
    exact Collections.get_set_of_ne _ _ ne
  | patchCluster space name patch => rfl
  | now => rfl
  | pause span => rw [Store.World.collections_pause]
  | record event => rfl

/-- What a command on objects of one kind does in a world where more may fail than is awaited. -/
theorem Command.IsFor.amid {command : Command} (isFor : command.IsFor id kind) {world : World}
    {hazards : Kind -> List Fault} {other : Kind} (ne : other ≠ kind) :
    ((World.answer command world).2.awaiting hazards).collections.get other =
      (world.awaiting hazards).collections.get other := by
  rw [World.get_awaiting, World.get_awaiting, isFor.elsewhere world ne]

/-- What commands on objects of one kind may have made of a ledger: no failures were ordered,
and the other kinds are as before. -/
structure Aside (kind : Kind) (before after : Ledger) : Prop where
  sound : after.collections.Sound
  faults : ∀ other,
    (after.collections.get other).faults ⊆ (before.collections.get other).faults
  others : ∀ other, other ≠ kind -> after.collections.get other = before.collections.get other

/-- Where nothing was done the other kinds are as before. -/
theorem Aside.refl {ledger : Ledger} (sound : ledger.collections.Sound) :
    Aside kind ledger ledger :=
  ⟨sound, fun _ => List.Subset.refl _, fun _ _ => rfl⟩

/-- Commands for a cluster on objects of one kind leave the other kinds aside. -/
theorem guarded_aside (id : String) (kind : Kind) (before : Ledger) :
    Guarded View.ledger.around (Command.IsFor id kind) (Aside kind before) := by
  rintro state command reply after aside isFor ⟨world, hazards, -, rfl, rfl, rfl⟩
  have sound : world.collections.Sound := Collections.sound_awaiting.1 aside.sound
  refine ⟨⟨Collections.sound_awaiting.2 fun other => ?_, ?_, ?_⟩, Store.answer_fits command sound⟩
  · exact (Store.answer_effect command world other).sound (sound other)
  · intro other
    have here : ((world.awaiting hazards).collections.get other).faults ⊆
        (before.collections.get other).faults := aside.faults other
    rw [World.get_awaiting] at here
    show (((World.answer command world).2.awaiting hazards).collections.get other).faults ⊆ _
    rwa [World.get_awaiting]
  · intro other ne
    exact (isFor.amid ne).trans (aside.others other ne)

/-- What commands for a cluster on objects of one kind may have made of a ledger: everything
still belongs to the cluster, no failures were ordered, and the other kinds are as before. -/
structure Kept (id : String) (kind : Kind) (before after : Ledger) : Prop where
  owned : after.collections.Owned id
  faults : ∀ other,
    (after.collections.get other).faults ⊆ (before.collections.get other).faults
  others : ∀ other, other ≠ kind -> after.collections.get other = before.collections.get other

/-- Where nothing was done everything is kept. -/
theorem Kept.refl {ledger : Ledger} (owned : ledger.collections.Owned id) :
    Kept id kind ledger ledger :=
  ⟨owned, fun _ => List.Subset.refl _, fun _ _ => rfl⟩

/-- Commands for a cluster on objects of one kind keep everything with the cluster. -/
theorem guarded_kept (id : String) (kind : Kind) (before : Ledger) :
    Guarded View.ledger.around (Command.IsFor id kind) (Kept id kind before) := by
  intro state command reply after kept isFor answered
  have aside : Aside kind before state := ⟨kept.owned.sound, kept.faults, kept.others⟩
  obtain ⟨later, fits⟩ :=
    guarded_aside id kind before state command reply after aside isFor answered
  refine ⟨⟨⟨later.sound, ?_⟩, later.faults, later.others⟩, fits⟩
  obtain ⟨world, hazards, -, rfl, rfl, rfl⟩ := answered
  exact Collections.owned_awaiting.2 fun other =>
    isFor.owned (Store.answer_effect command world other)
      (Collections.owned_awaiting.1 kept.owned.owned other)

/-- Ownership is kept by the commands on any kind. -/
theorem guarded_owned (id : String) (kind : Kind) :
    Guarded View.ledger.around (Command.IsFor id kind) fun ledger =>
      ledger.collections.Owned id := by
  intro state command reply after owned isFor answered
  obtain ⟨kept, fits⟩ :=
    guarded_kept id kind state state command reply after (.refl owned) isFor answered
  exact ⟨kept.owned, fits⟩

/-! ## Reachable worlds -/

/-- A deployment with another status. -/
def Kube.Object.withStatus (deployment : Object .deployment)
    (status : Option Kube.DeploymentStatus) : Object .deployment :=
  let body : Kube.DeploymentBody := deployment.body
  { deployment with body := { body with status := status } }

/-- The worlds that come of an empty one by passes over clusters with an id, for any event,
while failures are ordered at any time, or called off, and the status of deployments changes. -/
inductive Reached (id : String) : World -> Prop
  | start : Reached id {}
  | pass {world : World} (config : Config) {cluster : Cluster} (event : Event) (storm : Storm)
      (isId : cluster.id = id) (reached : Reached id world) :
      Reached id (world.runAmid storm (Pass.overCluster config cluster event).run).2
  | fail {world : World} (kind : Kind) (faults : List Fault) (reached : Reached id world) :
      Reached id
        { world with
          collections :=
            world.collections.set kind { world.collections.get kind with faults := faults } }
  | status {world : World} {deployment : Object .deployment}
      (status : Option Kube.DeploymentStatus) (mem : deployment ∈ world.objects .deployment)
      (reached : Reached id world) :
      Reached id
        (world.insert (deployment.withStatus status))

/-- Another collection of a kind, if it is sound and belongs to the cluster. -/
theorem Store.Collections.Owned.set {all : Collections} (owned : all.Owned id)
    {c : Collection kind} (sound : c.Sound) (own : c.Owned id) : (all.set kind c).Owned id := by
  constructor
  · intro other
    by_cases same : other = kind
    · subst same
      rw [Collections.get_set]
      exact sound
    · rw [Collections.get_set_of_ne all c same]
      exact owned.sound other
  · intro other
    by_cases same : other = kind
    · subst same
      rw [Collections.get_set]
      exact own
    · rw [Collections.get_set_of_ne all c same]
      exact owned.owned other

/-- Writing what belongs to a cluster leaves all collections owned. -/
theorem Store.Collections.Owned.insert {world : World} (owned : world.collections.Owned id)
    {object : Object kind} (belongs : Belongs id object) :
    (world.insert object).collections.Owned id := by
  rw [World.collections_insert]
  exact owned.set ((owned.sound kind).insert object) ((owned.owned kind).insert belongs)

/-- Collections are owned in a storm as they are without one. -/
theorem Store.Collections.Owned.amid {world : World} (owned : world.collections.Owned id)
    (storm : Storm) : (world.amid storm).collections.Owned id :=
  ⟨Collections.sound_awaiting.2 owned.sound, Collections.owned_awaiting.2 owned.owned⟩

/-- Every object of a reachable world belongs to the cluster. -/
theorem Reached.owned {world : World} (reached : Reached id world) :
    world.collections.Owned id := by
  induction reached with
  | start =>
    constructor
    · intro kind
      cases kind <;> exact Collection.sound_empty
    · intro kind
      cases kind <;> exact Collection.owned_empty
  | @pass world config cluster event storm isId _ ih =>
    subst isId
    have keeps := Pass.overCluster_keeps config cluster event (guarded_owned cluster.id)
    have ended := keeps.amid (ih.amid storm)
    exact ⟨Collections.sound_awaiting.1 ended.sound, Collections.owned_awaiting.1 ended.owned⟩
  | fail kind faults _ ih =>
    apply ih.set
    · exact (ih.sound kind).congr rfl rfl
    · exact ih.owned kind
  | status status mem _ ih =>
    obtain ⟨⟨slot, _⟩, filed, rfl⟩ := List.mem_map.1 mem
    have stored := (ih.sound .deployment).stored_of_mem filed
    have belongs := ih.owned .deployment stored
    exact ih.insert (belongs.congr rfl rfl rfl)

/-- A pass that nothing interferes with leads to a reachable world. -/
theorem Reached.calm {world : World} (reached : Reached id world) (config : Config)
    {cluster : Cluster} (event : Event) (isId : cluster.id = id) :
    Reached id (world.run (Pass.overCluster config cluster event).run).2 := by
  rw [← world.runAmid_nil]
  exact reached.pass config event [] isId

end GuestFleet
