import Mathlib.Data.Prod.Lex
import GuestFleet.Proofs.Decimal
import GuestFleet.Proofs.Entries
import GuestFleet.Store.Collection

/-!
# What collections keep

A write touches one slot and a removal another, whatever the collection holds. A sound
collection keeps its objects in the order of their slots, each in the slot that it belongs
in, and no object carries a version that is still to come.
-/

namespace GuestFleet.Store

open Kube (Kind Object)

variable {kind : Kind}

/-! ## The order of slots -/

section

/-- Slots are ordered by namespace first and by name second. -/
theorem Slot.lt_iff {a b : Slot} :
    a.lt b = true <-> toLex (a.space, a.name) < toLex (b.space, b.name) := by
  rw [Prod.Lex.toLex_lt_toLex, Slot.lt]
  by_cases same : a.space = b.space
  · rw [if_neg (not_not.2 same), decide_eq_true_iff]
    simp [same]
  · rw [if_pos same, decide_eq_true_iff]
    simp [same]

/-- Slots by namespace, then name. -/
local instance slotOrder : LinearOrder Slot :=
  LinearOrder.lift' (fun slot : Slot => toLex (slot.space, slot.name)) fun a b same => by
    obtain ⟨spaces, names⟩ := Prod.mk.injEq _ _ _ _ ▸ toLex.injective same
    cases a
    cases b
    exact congrArg₂ Slot.mk spaces names

/-- Placing an object in a collection is setting an entry in a list in order. -/
theorem place_eq (slot : Slot) (object : Object kind) (entries : List (Slot × Object kind)) :
    Collection.place slot object entries = Entries.insert slot object entries := by
  induction entries with
  | nil => rfl
  | cons head rest ih =>
    obtain ⟨s, o⟩ := head
    rw [Collection.place, Entries.insert, ih]
    by_cases before : slot.lt s = true
    · have below : slot < s := Slot.lt_iff.1 before
      simp only [before, below, if_true]
    · have notBelow : ¬ slot < s := fun below => before (Slot.lt_iff.2 below)
      simp only [before, notBelow, if_false, Bool.false_eq_true]

/-- The slots increase strictly. -/
def InOrder (entries : List (Slot × Object kind)) : Prop :=
  (entries.map Prod.fst).Pairwise fun a b => a.lt b = true

/-- A collection is in order when its entries are sorted by their slots. -/
theorem inOrder_iff {entries : List (Slot × Object kind)} :
    InOrder entries <-> Entries.Sorted entries := by
  constructor
  · intro inOrder
    exact List.Pairwise.imp Slot.lt_iff.1 inOrder
  · intro sorted
    exact List.Pairwise.imp Slot.lt_iff.2 sorted

/-- Placing an object keeps a collection in order. -/
theorem InOrder.place {entries : List (Slot × Object kind)} (inOrder : InOrder entries)
    (slot : Slot) (object : Object kind) : InOrder (Collection.place slot object entries) := by
  rw [place_eq, inOrder_iff]
  exact (inOrder_iff.1 inOrder).insert slot object

/-- A part of what is in order is in order. -/
theorem InOrder.sublist {part entries : List (Slot × Object kind)} (inOrder : InOrder entries)
    (isPart : part.Sublist entries) : InOrder part :=
  List.Pairwise.sublist (isPart.map Prod.fst) inOrder

/-- In a collection in order no slot occurs twice. -/
theorem InOrder.nodup {entries : List (Slot × Object kind)} (inOrder : InOrder entries) :
    (entries.map Prod.fst).Nodup :=
  (inOrder_iff.1 inOrder).nodup

/-- After placing an object, an entry is that one or was there before. -/
theorem mem_place {slot : Slot} {object : Object kind} {entry : Slot × Object kind}
    {entries : List (Slot × Object kind)}
    (mem : entry ∈ Collection.place slot object entries) :
    entry = (slot, object) ∨ entry ∈ entries := by
  rw [place_eq] at mem
  exact Entries.mem_insert mem

/-- After placing an object, its slot holds it and the others hold what they held. -/
theorem lookup_place (slot other : Slot) (object : Object kind)
    (entries : List (Slot × Object kind)) :
    List.lookup other (Collection.place slot object entries) =
      if other = slot then some object else List.lookup other entries := by
  rw [place_eq]
  by_cases same : other = slot
  · rw [if_pos same, same]
    exact Entries.lookup_insert_self slot object entries
  · rw [if_neg same]
    exact Entries.lookup_insert_of_ne same object entries

/-- After emptying a slot, it holds nothing and the others hold what they held. -/
theorem lookup_filter (slot other : Slot) (entries : List (Slot × Object kind)) :
    List.lookup other (entries.filter fun entry => entry.1 != slot) =
      if other = slot then none else List.lookup other entries :=
  Entries.lookup_erase slot other entries

/-- What is found in a slot is an entry of the collection. -/
theorem mem_of_lookup {slot : Slot} {object : Object kind}
    {entries : List (Slot × Object kind)} (found : List.lookup slot entries = some object) :
    (slot, object) ∈ entries :=
  Entries.mem_of_lookup found

/-- In a collection in order every entry is found in its slot. -/
theorem lookup_of_mem {slot : Slot} {object : Object kind}
    {entries : List (Slot × Object kind)} (inOrder : InOrder entries)
    (mem : (slot, object) ∈ entries) : List.lookup slot entries = some object :=
  Entries.lookup_of_mem inOrder.nodup mem

end

/-! ## Writes and removals -/

namespace Collection

/-- The text of a resource version. -/
def versionText (version : Nat) : String := String.ofList (Nat.toDigits 10 version)

/-- Versions with the same text are the same. -/
theorem versionText_injective {a b : Nat} (same : versionText a = versionText b) : a = b :=
  decimal_injective same

/-- A new resource version leaves an object in its slot. -/
@[simp] theorem slotOf_versioned (c : Collection kind) (object : Object kind) :
    slotOf (c.versioned object) = slotOf object := rfl

/-- After a write, the slot of the object holds it with its version, and the others are as before.
-/
theorem stored_insert (c : Collection kind) (object : Object kind) (slot : Slot) :
    (c.insert object).stored slot =
      if slot = slotOf object then some (c.versioned object) else c.stored slot :=
  lookup_place (slotOf object) slot (c.versioned object) c.objects

/-- After a removal, the slot is empty and the others are as before. -/
theorem stored_erase (c : Collection kind) (slot other : Slot) :
    (c.erase slot).stored other = if other = slot then none else c.stored other :=
  lookup_filter slot other c.objects

/-- What a collection keeps whoever calls it. -/
structure Sound (c : Collection kind) : Prop where
  inOrder : InOrder c.objects
  /-- Every object is in the slot that it belongs in. -/
  filed : ∀ entry ∈ c.objects, slotOf entry.2 = entry.1
  /-- Every object carries the version of a write that was made. -/
  dated : ∀ entry ∈ c.objects, ∃ version < c.nextVersion,
    entry.2.metadata.resourceVersion = some (versionText version)

/-- The empty collection is sound. -/
theorem sound_empty : ({} : Collection kind).Sound :=
  ⟨List.Pairwise.nil, fun _ mem => absurd mem List.not_mem_nil,
    fun _ mem => absurd mem List.not_mem_nil⟩

/-- Soundness concerns the objects and the next version alone. -/
theorem Sound.congr {c d : Collection kind} (sound : c.Sound) (objects : d.objects = c.objects)
    (version : d.nextVersion = c.nextVersion) : d.Sound := by
  refine ⟨?_, ?_, ?_⟩
  · rw [objects]
    exact sound.inOrder
  · rw [objects]
    exact sound.filed
  · rw [objects, version]
    exact sound.dated

/-- Writing an object into a sound collection leaves it sound. -/
theorem Sound.insert {c : Collection kind} (sound : c.Sound) (object : Object kind) :
    (c.insert object).Sound := by
  refine ⟨sound.inOrder.place _ _, ?_, ?_⟩
  · intro entry mem
    rcases mem_place mem with rfl | mem
    · exact slotOf_versioned c object
    · exact sound.filed entry mem
  · intro entry mem
    rcases mem_place mem with rfl | mem
    · exact ⟨c.nextVersion, Nat.lt_succ_self _, rfl⟩
    · obtain ⟨version, old, carried⟩ := sound.dated entry mem
      exact ⟨version, Nat.lt_succ_of_lt old, carried⟩

/-- Emptying a slot of a sound collection leaves it sound. -/
theorem Sound.erase {c : Collection kind} (sound : c.Sound) (slot : Slot) :
    (c.erase slot).Sound := by
  refine ⟨sound.inOrder.sublist List.filter_sublist, ?_, ?_⟩
  · intro entry mem
    exact sound.filed entry (List.mem_of_mem_filter mem)
  · intro entry mem
    exact sound.dated entry (List.mem_of_mem_filter mem)

/-- In a sound collection every object is stored in its own slot. -/
theorem Sound.slotOf_stored {c : Collection kind} (sound : c.Sound) {slot : Slot}
    {object : Object kind} (found : c.stored slot = some object) : slotOf object = slot :=
  sound.filed _ (mem_of_lookup found)

/-- In a sound collection every entry is what its slot holds. -/
theorem Sound.stored_of_mem {c : Collection kind} (sound : c.Sound) {slot : Slot}
    {object : Object kind} (mem : (slot, object) ∈ c.objects) : c.stored slot = some object :=
  lookup_of_mem sound.inOrder mem

/-- A version that is still to come is on no object. -/
theorem Sound.version_ne {c : Collection kind} (sound : c.Sound) {slot : Slot}
    {object : Object kind} (found : c.stored slot = some object) :
    object.metadata.resourceVersion ≠ some (versionText c.nextVersion) := by
  obtain ⟨version, old, carried⟩ := sound.dated _ (mem_of_lookup found)
  rw [carried]
  intro same
  have equal := versionText_injective (Option.some.inj same)
  omega

/-- In a sound collection every object carries a resource version. -/
theorem Sound.version_of_stored {c : Collection kind} (sound : c.Sound) {slot : Slot}
    {object : Object kind} (found : c.stored slot = some object) :
    ∃ text, object.metadata.resourceVersion = some text := by
  obtain ⟨version, -, carried⟩ := sound.dated _ (mem_of_lookup found)
  exact ⟨versionText version, carried⟩

/-- An object that names a version replaces that version alone. -/
theorem version_of_mayReplace {object existing : Object kind} {version : String}
    (may : mayReplace object existing = true)
    (named : object.metadata.resourceVersion = some version) :
    existing.metadata.resourceVersion = some version := by
  unfold mayReplace at may
  rw [named] at may
  exact eq_of_beq may

/-- A stored object may be written in its own place. -/
theorem mayReplace_own {object existing : Object kind}
    (same : object.metadata.resourceVersion = existing.metadata.resourceVersion) :
    mayReplace object existing = true := by
  unfold mayReplace
  rw [same]
  cases existing.metadata.resourceVersion with
  | none => rfl
  | some version => exact beq_self_eq_true _

/-- An object as it was stored cannot take the place of a later write. -/
theorem Sound.not_mayReplace {c : Collection kind} (sound : c.Sound) {slot : Slot}
    {object : Object kind} (found : c.stored slot = some object) (written : Object kind) :
    mayReplace object (c.versioned written) = false := by
  obtain ⟨version, -, carried⟩ := sound.dated _ (mem_of_lookup found)
  have ne := sound.version_ne found
  have carriedHere : object.metadata.resourceVersion = some (versionText version) := carried
  unfold mayReplace
  rw [carriedHere] at ne ⊢
  exact beq_false_of_ne (Ne.symm ne)

/-- The objects of a list call are those in the slots of the namespace that the selector
selects. -/
theorem Sound.mem_selected {c : Collection kind} (sound : c.Sound) {space : Option String}
    {selector : String} {object : Object kind} :
    object ∈ c.selected space selector <->
      c.stored (slotOf object) = some object ∧ space.all (· == (slotOf object).space) = true ∧
        Kube.Selector.selects selector object.metadata.labels = true := by
  unfold selected
  rw [List.mem_map]
  constructor
  · rintro ⟨⟨slot, stored⟩, mem, rfl⟩
    obtain ⟨mem, chosen⟩ := List.mem_filter.1 mem
    have own : slotOf stored = slot := sound.filed _ mem
    rw [own]
    exact ⟨sound.stored_of_mem mem, Bool.and_eq_true_iff.1 chosen⟩
  · rintro ⟨found, inSpace, selected⟩
    refine ⟨(slotOf object, object), List.mem_filter.2 ⟨mem_of_lookup found, ?_⟩, rfl⟩
    exact Bool.and_eq_true_iff.2 ⟨inSpace, selected⟩

/-! ## Failures to come -/

/-- The failure that is taken is one for the operation, and all others are left in their order. -/
theorem takeFault_eq_some {operation : Operation} {faults others : List Fault} {fault : Fault}
    (taken : takeFault operation faults = some (fault, others)) :
    ∃ before after, faults = before ++ fault :: after ∧ others = before ++ after ∧
      fault.operation = operation := by
  induction faults generalizing others with
  | nil => cases taken
  | cons head rest ih =>
    rw [takeFault] at taken
    split_ifs at taken with own
    · obtain ⟨rfl, rfl⟩ := Prod.mk.injEq _ _ _ _ ▸ Option.some.inj taken
      exact ⟨[], rest, rfl, rfl, own⟩
    · obtain ⟨⟨found, left⟩, takenRest, eq⟩ := Option.map_eq_some_iff.1 taken
      obtain ⟨rfl, rfl⟩ := Prod.mk.injEq _ _ _ _ ▸ eq
      obtain ⟨before, after, rfl, rfl, operationEq⟩ := ih takenRest
      exact ⟨head :: before, after, rfl, rfl, operationEq⟩

/-- No failure is taken if none is for the operation. -/
theorem takeFault_eq_none {operation : Operation} {faults : List Fault} :
    takeFault operation faults = none <-> ∀ fault ∈ faults, fault.operation ≠ operation := by
  induction faults with
  | nil => simp [takeFault]
  | cons head rest ih =>
    rw [takeFault]
    split_ifs with own
    · simp [own]
    · rw [Option.map_eq_none_iff, ih]
      simp [own]

/-- A failure that was taken was ordered, and no other one is lost. -/
theorem mem_of_takeFault {operation : Operation} {faults others : List Fault} {fault : Fault}
    (taken : takeFault operation faults = some (fault, others)) : fault ∈ faults := by
  obtain ⟨before, after, rfl, -, -⟩ := takeFault_eq_some taken
  exact List.mem_append_right before List.mem_cons_self

/-- What is left when a failure was taken was there before. -/
theorem sublist_of_takeFault {operation : Operation} {faults others : List Fault} {fault : Fault}
    (taken : takeFault operation faults = some (fault, others)) : others.Sublist faults := by
  obtain ⟨before, after, rfl, rfl, -⟩ := takeFault_eq_some taken
  exact (List.sublist_cons_self fault after).append_left before

end Collection

end GuestFleet.Store
