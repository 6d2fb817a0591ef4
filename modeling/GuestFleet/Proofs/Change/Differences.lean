import GuestFleet.Change.Diff
import GuestFleet.Proofs.Cluster.Territory

/-!
# Differences against a collection

When the current objects are those that a collection holds in certain slots, differences
are a matter of slots: what is to be created has an empty slot, what is obsolete is in no
desired slot, and what is modified is compared with the object in its slot.
-/

namespace GuestFleet

open Kube (Key Kind Object)
open Store (Collection Slot slotOf)

variable {kind : Kind} {id : String}

/-- Objects of one cluster have the same key when they belong in the same slot. -/
theorem Belongs.key_eq_iff {a b : Object kind} (first : Belongs id a) (second : Belongs id b) :
    a.key = b.key <-> slotOf a = slotOf b := by
  have spaces : a.metadata.namespaceName = b.metadata.namespaceName :=
    first.space.trans second.space.symm
  constructor
  · intro same
    exact congrArg₂ Slot.make (congrArg Key.namespaceName same) (congrArg Key.name same)
  · intro same
    have names : a.name = b.name := congrArg Slot.name same
    rw [Object.key, Object.key, spaces, names]

/-- Every stored object belongs to the cluster with an id. -/
def Store.Collection.Owned (c : Collection kind) (id : String) : Prop :=
  ∀ ⦃slot : Slot⦄ ⦃object : Object kind⦄, c.stored slot = some object -> Belongs id object

/-- Calls and failures to come do not change who owns a collection. -/
theorem Store.Collection.Alike.owned {c d : Collection kind} (alike : c.Alike d)
    (owned : c.Owned id) : d.Owned id := by
  intro slot object stored
  rw [alike.stored] at stored
  exact owned stored

/-- No two of the objects are in the same slot. -/
def Apart (objects : List (Object kind)) : Prop := (objects.map slotOf).Nodup

/-- Of objects in slots apart, two in one slot are the same. -/
theorem Apart.eq {objects : List (Object kind)} (apart : Apart objects) {first second : Object kind}
    (memFirst : first ∈ objects) (memSecond : second ∈ objects)
    (same : slotOf first = slotOf second) : first = second :=
  List.inj_on_of_nodup_map apart memFirst memSecond same

/-- Fewer objects than such as are in slots apart are in slots apart too. -/
theorem Apart.sublist {fewer objects : List (Object kind)} (apart : Apart objects)
    (within : fewer.Sublist objects) : Apart fewer :=
  List.Nodup.sublist (within.map slotOf) apart

/-- Objects in slots apart occur once each. -/
theorem Apart.nodup {objects : List (Object kind)} (apart : Apart objects) : objects.Nodup :=
  List.Nodup.of_map slotOf apart

/-- What the objects that a cluster with an id needs have in common, to be looked after by a
resource that looks into some slots. -/
structure Target (id : String) (sees : Slot -> Prop) (desired : List (Object kind)) : Prop where
  belongs : ∀ object ∈ desired, Belongs id object
  seen : ∀ object ∈ desired, sees (slotOf object)
  apart : Apart desired
  named : ∀ object ∈ desired, object.metadata.name = some object.name
  unversioned : ∀ object ∈ desired, object.metadata.resourceVersion = none

/-- The current objects are those that the collection holds in the slots that are seen. -/
def IsReading (sees : Slot -> Prop) (c : Collection kind) (current : List (Object kind)) : Prop :=
  ∀ object, object ∈ current <-> sees (slotOf object) ∧ c.stored (slotOf object) = some object

namespace IsReading

variable {sees : Slot -> Prop} {c : Collection kind} {current desired : List (Object kind)}
  (reading : IsReading sees c current) (sound : c.Sound) (owned : c.Owned id)
  (target : Target id sees desired)

include reading sound owned target

/-- The object with the key of a desired one is what is stored in its slot. -/
theorem byKey_eq {object : Object kind} (mem : object ∈ desired) :
    Diff.byKey current object.key = c.stored (slotOf object) := by
  have belongs := target.belongs object mem
  cases found : Diff.byKey current object.key with
  | some existing =>
    have among : existing ∈ current := List.mem_reverse.1 (List.mem_of_find?_eq_some found)
    have chosen := List.find?_some found
    have keys : existing.key = object.key := of_decide_eq_true chosen
    have stored := ((reading existing).1 among).2
    rw [← (Belongs.key_eq_iff (owned stored) belongs).1 keys, stored]
  | none =>
    cases stored : c.stored (slotOf object) with
    | none => rfl
    | some existing =>
      have slot := sound.slotOf_stored stored
      have among : existing ∈ current := by
        refine (reading existing).2 ?_
        rw [slot]
        exact ⟨target.seen object mem, stored⟩
      have keys := (Belongs.key_eq_iff (owned stored) belongs).2 slot
      have unseen := List.find?_eq_none.1 found existing (List.mem_reverse.2 among)
      rw [decide_eq_true_iff] at unseen
      exact absurd keys unseen

/-- A wanted object is found by its key if, and only if, its slot is not empty. -/
theorem hasKey_eq {object : Object kind} (mem : object ∈ desired) :
    Diff.hasKey current object.key = (c.stored (slotOf object)).isSome := by
  rw [← byKey_eq reading sound owned target mem, Diff.hasKey, Diff.byKey, Bool.eq_iff_iff,
    List.find?_isSome, List.any_eq_true]
  simp only [List.mem_reverse]

/-- What is to be created are the wanted objects whose slots are empty. -/
theorem mem_created {object : Object kind} :
    object ∈ Diff.created current desired <->
      object ∈ desired ∧ c.stored (slotOf object) = none := by
  rw [Diff.created, List.mem_filter]
  constructor
  · rintro ⟨mem, absent⟩
    rw [hasKey_eq reading sound owned target mem, Bool.not_eq_true',
      Option.isSome_eq_false_iff, Option.isNone_iff_eq_none] at absent
    exact ⟨mem, absent⟩
  · rintro ⟨mem, absent⟩
    rw [hasKey_eq reading sound owned target mem, absent]
    exact ⟨mem, rfl⟩

/-- What is to be updated are the wanted objects that what is stored in their slots differs from. -/
theorem mem_modified {object : Object kind} :
    object ∈ Diff.modified current desired <->
      object ∈ desired ∧ ∃ existing, c.stored (slotOf object) = some existing ∧
        existing.isModified object = true := by
  rw [Diff.modified, List.mem_filter]
  constructor
  · rintro ⟨mem, differs⟩
    rw [byKey_eq reading sound owned target mem] at differs
    cases stored : c.stored (slotOf object) with
    | none =>
      rw [stored] at differs
      cases differs
    | some existing =>
      rw [stored] at differs
      exact ⟨mem, existing, rfl, differs⟩
  · rintro ⟨mem, existing, stored, differs⟩
    rw [byKey_eq reading sound owned target mem, stored]
    exact ⟨mem, differs⟩

omit sound in
/-- What is obsolete are the found objects in whose slots nothing is wanted. -/
theorem mem_obsolete {object : Object kind} :
    object ∈ Diff.obsolete current desired <->
      object ∈ current ∧ ∀ wanted ∈ desired, slotOf wanted ≠ slotOf object := by
  rw [Diff.obsolete, List.mem_filter, Bool.not_eq_true', Diff.hasKey, List.any_eq_false]
  refine and_congr_right fun mem => ?_
  have belongs := owned ((reading object).1 mem).2
  constructor
  · intro differ wanted among same
    refine differ wanted among (decide_eq_true ?_)
    exact (Belongs.key_eq_iff (target.belongs wanted among) belongs).2 same
  · intro differ wanted among same
    refine differ wanted among ?_
    exact (Belongs.key_eq_iff (target.belongs wanted among) belongs).1 (of_decide_eq_true same)

end IsReading

end GuestFleet
