import GuestFleet.Proofs.Store.Reads

/-!
# What was touched

A collection after some calls, compared with the collection before: which slots may have
changed, and that time went on. Two collections resemble each other when they hold the same
objects in the same slots; versions do not count, since a call that is made again is a write
of its own.
-/

namespace GuestFleet

open Kube (Kind Object)
open Store (Collection Fault Slot slotOf)

variable {kind : Kind}

/-! ## Objects up to versions -/

namespace Kube.Object

/-- The object with the resource version of a write. -/
def dated (object : Object kind) (version : Nat) : Object kind :=
  { object with
    metadata :=
      { object.metadata with resourceVersion := some (Collection.versionText version) } }

/-- The object without its resource version. -/
def unversioned (object : Object kind) : Object kind :=
  { object with metadata := { object.metadata with resourceVersion := none } }

end Kube.Object

namespace Store.Collection

variable {c d e : Collection kind}

/-- Both hold the same objects in the same slots, whatever the resource versions. -/
def Resembles (c d : Collection kind) : Prop :=
  ∀ slot, (d.stored slot).map Object.unversioned = (c.stored slot).map Object.unversioned

/-- Like collections resemble each other. -/
theorem Alike.resembles (alike : c.Alike d) : c.Resembles d := by
  intro slot
  rw [alike.stored]

/-- No object carries a version that is still to come. -/
theorem Sound.dated_ne (sound : c.Sound) {slot : Slot} {object : Object kind} {version : Nat}
    (late : c.nextVersion ≤ version) : c.stored slot ≠ some (object.dated version) := by
  intro found
  obtain ⟨early, old, carried⟩ := sound.dated _ (mem_of_lookup found)
  have same : versionText version = versionText early := Option.some.inj carried
  have equal := versionText_injective same
  omega

/-! ## Slots -/

/-- Calls led from one collection to the other that wrote in some slots alone. -/
structure Touched (slots : List Slot) (c d : Collection kind) : Prop where
  steady : d.Steady
  later : c.nextVersion ≤ d.nextVersion
  faults : d.faults ⊆ c.faults
  elsewhere : ∀ slot, slot ∉ slots -> d.stored slot = c.stored slot

namespace Touched

variable {slots more : List Slot}

/-- A steady collection is touched in no slot by no calls. -/
theorem refl (steady : c.Steady) : Touched slots c c :=
  ⟨steady, Nat.le_refl _, List.Subset.refl _, fun _ _ => rfl⟩

/-- What is touched in two stretches of calls is touched in both together. -/
theorem trans (first : Touched slots c d) (second : Touched slots d e) : Touched slots c e := by
  refine ⟨second.steady, first.later.trans second.later, ?_, ?_⟩
  · exact List.Subset.trans second.faults first.faults
  · intro slot outside
    rw [second.elsewhere slot outside, first.elsewhere slot outside]

/-- What was touched in some slots was touched in more slots. -/
theorem mono (touched : Touched slots c d) (within : slots ⊆ more) : Touched more c d :=
  ⟨touched.steady, touched.later, touched.faults,
    fun slot outside => touched.elsewhere slot fun mem => outside (within mem)⟩

/-- Calls that write nothing touch no slot. -/
theorem of_alike (steady : c.Steady) (alike : c.Alike d) (faults : d.faults ⊆ c.faults) :
    Touched slots c d :=
  ⟨steady.congr alike faults, Nat.le_of_eq alike.2.symm, faults, fun slot _ => alike.stored slot⟩

/-- Whatever alike collection the calls led to. -/
theorem congr (touched : Touched slots c d) (alike : d.Alike e) (faults : e.faults ⊆ d.faults) :
    Touched slots c e :=
  touched.trans (.of_alike touched.steady alike faults)

/-- Calls that only read touch no slot. -/
theorem of_unwritten (steady : c.Steady) (unwritten : c.Unwritten d) : Touched slots c d :=
  of_alike steady unwritten.alike unwritten.faults

/-- A call that is only counted touches no slot. -/
theorem called (steady : c.Steady) (operation : Operation) :
    Touched slots c (c.called operation) :=
  of_alike steady alike_called (List.Subset.refl _)

/-- A write touches the slot of the object. -/
theorem insert (touched : Touched slots c d) {object : Object kind}
    (mem : slotOf object ∈ slots) : Touched slots c (d.insert object) := by
  refine ⟨⟨touched.steady.sound.insert object, touched.steady.passing⟩, ?_, touched.faults, ?_⟩
  · exact touched.later.trans (Nat.le_succ _)
  · intro slot outside
    have ne : slot ≠ slotOf object := ne_of_mem_of_not_mem mem outside |>.symm
    rw [stored_insert, if_neg ne]
    exact touched.elsewhere slot outside

/-- A removal touches the slot that it empties. -/
theorem erase (touched : Touched slots c d) {slot : Slot} (mem : slot ∈ slots)
    (deletions : List (String × Option Nat)) :
    Touched slots c { d.erase slot with deletions := deletions } := by
  have sound : ({ d.erase slot with deletions := deletions } : Collection kind).Sound :=
    (touched.steady.sound.erase slot).congr rfl rfl
  refine ⟨⟨sound, touched.steady.passing⟩, touched.later, touched.faults, ?_⟩
  intro other outside
  have ne : other ≠ slot := ne_of_mem_of_not_mem mem outside |>.symm
  have erased : (d.erase slot).stored other = d.stored other := by
    rw [stored_erase, if_neg ne]
  exact erased.trans (touched.elsewhere other outside)

/-- When nothing is to fail, nothing will. -/
theorem unfailing (touched : Touched slots c d) (none : c.faults = []) : d.faults = [] := by
  have fewer := touched.faults
  rw [none] at fewer
  exact List.subset_nil.1 fewer

end Touched

end Store.Collection

end GuestFleet
