import GuestFleet.Proofs.Cluster.Valid
import GuestFleet.Proofs.Resource.Confined
import GuestFleet.Store.Changes

/-!
# Clusters apart

What a pass over one cluster leaves alone: every slot outside the territory of the cluster.
Two clusters with different ids share no object, save that the general role binding of one
may be the one for the pod security policy of the other.
-/

namespace GuestFleet

open Kube (Key Kind Object)
open Store (Call Command.Effect Collections Ledger Slot View World slotOf)

/-! ## Outside of a territory -/

/-- The call was made to change an object. -/
def Store.Call.Writes (call : Call) : Prop :=
  call.operation = .create ∨ call.operation = .replace ∨ call.operation = .delete

/-- What the commands for a cluster with an id may have made of a ledger. -/
structure Stayed (id : String) (before after : Ledger) : Prop where
  sound : after.collections.Sound
  /-- Slots outside the territory hold what they held. -/
  stored : ∀ kind slot, ¬ Territory id kind slot ->
    (after.collections.get kind).stored slot = (before.collections.get kind).stored slot
  /-- What was written since is in the territory. -/
  calls : ∃ new, after.log = new ++ before.log ∧
    ∀ call ∈ new, call.Writes -> Territory id call.kind (.make call.space call.name)

/-- Where nothing was done nothing left the territory. -/
theorem Stayed.refl {id : String} {ledger : Ledger} (sound : ledger.collections.Sound) :
    Stayed id ledger ledger := by
  refine ⟨sound, fun _ _ _ => rfl, [], rfl, ?_⟩
  intro call mem
  cases mem

/-- A call that writes for a cluster is about its territory. -/
theorem Command.IsFor.call {id : String} {kind : Kind} {command : Command}
    (isFor : command.IsFor id kind) {call : Call} (isOf : call.IsOf command)
    (writes : call.Writes) : Territory id call.kind (.make call.space call.name) := by
  cases command with
  | get own space name =>
    rcases writes with eq | eq | eq <;> cases isOf.1.symm.trans eq
  | list own space selector =>
    rcases writes with eq | eq | eq <;> cases isOf.1.symm.trans eq
  | create own object =>
    obtain ⟨-, sameKind, sameSpace, sameName⟩ := isOf
    rw [sameKind, sameSpace, sameName]
    exact isFor.2.slot
  | replace own object =>
    obtain ⟨-, sameKind, sameSpace, sameName⟩ := isOf
    rw [sameKind, sameSpace, sameName]
    exact isFor.2.slot
  | delete own space name grace =>
    obtain ⟨-, sameKind, sameSpace, sameName⟩ := isOf
    rw [sameKind, sameSpace, sameName]
    exact isFor.2
  | patchCluster space name patch => exact isFor.elim
  | now => exact isOf.elim
  | pause span => exact isOf.elim
  | record event => exact isOf.elim

/-- The effect of a command for a cluster is within the cluster's territory. -/
theorem Command.IsFor.stored {id : String} {kind other : Kind} {command : Command}
    (isFor : command.IsFor id kind) {c d : Store.Collection other}
    (effect : Command.Effect command c d) {slot : Slot} (outside : ¬ Territory id other slot) :
    d.stored slot = c.stored slot := by
  rcases effect with alike | ⟨object, isWrite, alike⟩ | ⟨space, name, grace, rfl, alike⟩
  · exact alike.stored slot
  · have belongs : Belongs id object := by
      rcases isWrite with rfl | rfl
      · exact isFor.2
      · exact isFor.2
    have ne : slot ≠ slotOf object := by
      rintro rfl
      exact outside belongs.slot
    rw [alike.stored, Store.Collection.stored_insert, if_neg ne]
  · have ne : slot ≠ .make space name := by
      rintro rfl
      exact outside isFor.2
    rw [alike.stored, Store.Collection.stored_erase, if_neg ne]

/-- No command for a cluster reaches out of the cluster's territory. -/
theorem guarded_stayed (id : String) (kind : Kind) (before : Ledger) :
    Guarded View.ledger.alone (Command.IsFor id kind) (Stayed id before) := by
  rintro state command reply after stayed isFor ⟨world, rfl, rfl, rfl⟩
  refine ⟨⟨?_, ?_, ?_⟩, Store.answer_fits command stayed.sound⟩
  · intro other
    exact (Store.answer_effect command world other).sound (stayed.sound other)
  · intro other slot outside
    rw [← stayed.stored other slot outside]
    exact isFor.stored (Store.answer_effect command world other) outside
  · obtain ⟨new, added, within⟩ := stayed.calls
    rcases Store.answer_log command world with same | ⟨call, isOf, grown⟩
    · exact ⟨new, same.trans added, within⟩
    · refine ⟨call :: new, grown.trans (congrArg (call :: ·) added), ?_⟩
      intro other mem writes
      rcases List.mem_cons.1 mem with rfl | mem
      · exact isFor.call isOf writes
      · exact within other mem writes

/-- A pass over a cluster stays in the cluster's territory. -/
theorem Pass.overCluster_stayed (config : Config) (cluster : Cluster) (event : Event)
    {world : World} (sound : world.collections.Sound) :
    Stayed cluster.id world.ledger
      (world.run (Pass.overCluster config cluster event).run).2.ledger := by
  have keeps := Pass.overCluster_keeps config cluster event
    (fun kind => guarded_stayed cluster.id kind world.ledger)
  exact keeps.run (Stayed.refl sound)

/-! ## Two clusters -/

/-- A key of an object that the cluster needs. -/
def Blueprint.Wants (b : Blueprint) (etcd : EtcdStorage) (key : Key) : Prop :=
  ∃ (kind : Kind) (object : Object kind), object ∈ b.desired etcd kind ∧ object.key = key

/-- The key that two clusters share when the id of one is the name of the other's role
binding for the pod security policy. -/
def SharedKey (a b : String) (key : Key) : Prop :=
  key.kind = .clusterRoleBinding ∧ key.namespaceName = none ∧
    (b = a ++ "-psp" ∧ key.name = b ∨ a = b ++ "-psp" ∧ key.name = a)

/-- An object that belongs to one cluster is outside the other's territory, unless it has
the key that both share. -/
theorem Belongs.outside {a b : String} (different : a ≠ b) {kind : Kind} {object : Object kind}
    (belongs : Belongs b object) (unshared : ¬ SharedKey a b object.key) :
    ¬ Territory a kind (slotOf object) := by
  intro within
  obtain ⟨rfl, meet⟩ := territories_meet different within belongs.slot
  refine unshared ⟨rfl, belongs.space, ?_⟩
  rcases meet with ⟨isPsp, slot⟩ | ⟨isPsp, slot⟩
  · exact .inl ⟨isPsp, (Slot.mk.inj slot).2⟩
  · exact .inr ⟨isPsp, (Slot.mk.inj slot).2⟩

/-- Every cluster wants the role bindings with its id and with its id and a suffix. -/
theorem Blueprint.wants_roleBindings (b : Blueprint) (etcd : EtcdStorage) :
    b.Wants etcd ⟨.clusterRoleBinding, none, b.cluster.id⟩ ∧
      b.Wants etcd ⟨.clusterRoleBinding, none, b.cluster.id ++ "-psp"⟩ := by
  constructor
  · exact ⟨.clusterRoleBinding, _, List.mem_cons_self, rfl⟩
  · exact ⟨.clusterRoleBinding, _, List.mem_cons_of_mem _ List.mem_cons_self, rfl⟩

/-- Two clusters want an object with one and the same key if, and only if, it is the key
that they share by their ids. -/
theorem Blueprint.wants_both_iff (a b : Blueprint) (etcdA etcdB : EtcdStorage)
    (different : a.cluster.id ≠ b.cluster.id) (key : Key) :
    a.Wants etcdA key ∧ b.Wants etcdB key <-> SharedKey a.cluster.id b.cluster.id key := by
  constructor
  · rintro ⟨⟨kind, first, memA, rfl⟩, kindB, second, memB, same⟩
    obtain rfl : kindB = kind := congrArg Key.kind same
    by_contra unshared
    rw [← same] at unshared
    have slots : slotOf second = slotOf first := by
      rw [slotOf, slotOf]
      exact congrArg₂ Slot.make (congrArg Key.namespaceName same) (congrArg Key.name same)
    have outside := (b.belongs_desired etcdB memB).outside different unshared
    rw [slots] at outside
    exact outside (a.belongs_desired etcdA memA).slot
  · obtain ⟨kind, space, name⟩ := key
    rintro ⟨rfl, rfl, ⟨isPsp, rfl⟩ | ⟨isPsp, rfl⟩⟩
    · refine ⟨?_, (b.wants_roleBindings etcdB).1⟩
      show a.Wants etcdA ⟨_, _, b.cluster.id⟩
      rw [isPsp]
      exact (a.wants_roleBindings etcdA).2
    · refine ⟨(a.wants_roleBindings etcdA).1, ?_⟩
      show b.Wants etcdB ⟨_, _, a.cluster.id⟩
      rw [isPsp]
      exact (b.wants_roleBindings etcdB).2

/-- Two clusters with different ids are apart but for one role binding: they want no other
key both, and a pass over one neither changes nor writes any other object that the other
one wants. -/
theorem Pass.overCluster_apart (a b : Blueprint) (etcdA etcdB : EtcdStorage)
    (different : a.cluster.id ≠ b.cluster.id) :
    (∀ key, a.Wants etcdA key ∧ b.Wants etcdB key <->
      SharedKey a.cluster.id b.cluster.id key) ∧
    ∀ (config : Config) (event : Event) (world : World), world.collections.Sound ->
      ∀ {kind : Kind} (object : Object kind), object ∈ b.desired etcdB kind ->
        ¬ SharedKey a.cluster.id b.cluster.id object.key ->
        let after := (world.run (Pass.overCluster config a.cluster event).run).2
        (after.collections.get kind).stored (slotOf object) =
            (world.collections.get kind).stored (slotOf object) ∧
          ∀ call ∈ after.callsSince world, call.Writes -> call.kind = kind ->
            Slot.make call.space call.name ≠ slotOf object := by
  refine ⟨Blueprint.wants_both_iff a b etcdA etcdB different, ?_⟩
  intro config event world sound kind object mem unshared after
  have outside := (b.belongs_desired etcdB mem).outside different unshared
  have stayed := overCluster_stayed config a.cluster event sound
  refine ⟨stayed.stored kind _ outside, ?_⟩
  obtain ⟨new, grown, within⟩ := stayed.calls
  intro call called writes isKind same
  have since : after.callsSince world = new.reverse := Store.callsSince_eq grown
  rw [since, List.mem_reverse] at called
  have inside := within call called writes
  rw [isKind, same] at inside
  exact outside inside

/-- A world with a role binding that the cluster al9qy wants. -/
def boundWorld : World :=
  ({} : World).insert
    ((⟨smallCluster "al9qy", {}⟩ : Blueprint).roleBinding "al9qy-psp" "kvm-operator-guest-psp")

/-- That world after the end of a cluster whose general binding is the same. -/
def unboundWorld : World :=
  (boundWorld.run (Pass.overCluster {} (smallCluster "al9qy-psp") .delete).run).2

/-- The general binding is gone from that world. -/
theorem unboundWorld_stored :
    (unboundWorld.collections.get .clusterRoleBinding).stored ⟨"", "al9qy-psp"⟩ = none := rfl

/-- Two valid clusters share a binding, and the one cluster's end takes it from the other,
whose namespace is left alone. -/
theorem Pass.overCluster_takes_binding :
    let first : Blueprint := ⟨smallCluster "al9qy", {}⟩
    let second : Blueprint := ⟨smallCluster "al9qy-psp", {}⟩
    let key : Key := ⟨.clusterRoleBinding, none, "al9qy-psp"⟩
    (first.cluster.isValid = true ∧ second.cluster.isValid = true) ∧
      (second.Wants .persistentVolume key ∧ first.Wants .persistentVolume key) ∧
      ((boundWorld.collections.get .clusterRoleBinding).stored ⟨"", "al9qy-psp"⟩).isSome = true ∧
      (unboundWorld.collections.get .clusterRoleBinding).stored ⟨"", "al9qy-psp"⟩ = none ∧
      (unboundWorld.collections.get .namespace).stored (slotOf first.namespaceObject) =
        (boundWorld.collections.get .namespace).stored (slotOf first.namespaceObject) := by
  intro first second key
  have different : second.cluster.id ≠ first.cluster.id := by decide
  obtain ⟨shared, apart⟩ :=
    overCluster_apart second first .persistentVolume .persistentVolume different
  have sound : boundWorld.collections.Sound := by
    intro kind
    cases kind with
    | clusterRoleBinding => exact Store.Collection.sound_empty.insert _
    | _ => exact Store.Collection.sound_empty
  have unshared : ¬ SharedKey second.cluster.id first.cluster.id first.namespaceObject.key := by
    rintro ⟨isBinding, -⟩
    cases isBinding
  have kept := apart {} .delete boundWorld sound first.namespaceObject List.mem_cons_self unshared
  have isCluster : second.cluster = smallCluster "al9qy-psp" := rfl
  rw [isCluster] at kept
  refine ⟨⟨by decide, by decide⟩, (shared key).2 ?_, by decide, unboundWorld_stored, kept.1⟩
  exact ⟨rfl, rfl, .inr ⟨rfl, rfl⟩⟩

end GuestFleet
