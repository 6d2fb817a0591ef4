import GuestFleet.Proofs.Change.Differences
import GuestFleet.Proofs.Change.Merged
import GuestFleet.Proofs.Store.Reads

/-!
# On the way to what is desired

How far the objects of a kind are from the desired ones, as the objects that may still be
missing or stale and the slots that may still be occupied in surplus. Every request of a
resource brings the collection nearer or leaves it where it was, also when it breaks off,
and that is why a phase can be tried again.
-/

namespace GuestFleet

open Kube (Kind Object)
open Store (Collection Fault Slot View slotOf)
open Store.Collection (takeFault mayReplace)

variable {kind : Kind}

/-! ## Objects as desired -/

/-- The object makes a pass that is to bring objects about stop. -/
def Kube.Object.stopsPass : {kind : Kind} -> Object kind -> Bool
  | .namespace, object => Resource.isTerminating object
  | _, _ => false

/-- An existing object is as desired, as far as the next pass is concerned. Deployments may
differ, since they are written again one at a time. -/
structure IsGood (existing desired : Object kind) : Prop where
  going : existing.stopsPass = false
  same : kind ≠ .deployment -> existing.isModified desired = false

/-- An object that was written as it is desired is as desired. -/
theorem isGood_versioned (c : Collection kind) {desired : Object kind}
    (going : desired.stopsPass = false) (plain : kind ≠ .ingress ∧ kind ≠ .service) :
    IsGood (c.versioned desired) desired := by
  constructor
  · rw [← going]
    cases kind <;> rfl
  · intro notDeployment
    cases kind with
    | clusterRoleBinding => simp [Object.isModified, Collection.versioned]
    | configMap => simp [Object.isModified, Collection.versioned]
    | deployment => exact absurd rfl notDeployment
    | ingress => exact absurd rfl plain.1
    | service => exact absurd rfl plain.2
    | «namespace» => rfl
    | serviceAccount => rfl
    | persistentVolumeClaim => rfl
    | pod => rfl

/-- An object that carries the snapshot of a desired one is as desired. -/
theorem isGood_of_snapshot {existing desired : Object kind}
    (isMerged : kind = .ingress ∨ kind = .service)
    (snapshot : existing.lastApplied = some desired.snapshotText) : IsGood existing desired := by
  have current : existing.needsUpdate desired = false := by
    rw [Object.needsUpdate, snapshot, bne_self_eq_false]
  rcases isMerged with rfl | rfl
  · exact ⟨rfl, fun _ => current⟩
  · exact ⟨rfl, fun _ => current⟩

/-! ## Progress -/

/-- How far a collection is from the desired objects: which of them may be missing, which
may be stale, and which other slots that are seen may be occupied. -/
structure Underway (sees : Slot -> Prop) (desired : List (Object kind))
    (missing stale : Object kind -> Prop) (surplus : Slot -> Prop) (c : Collection kind) :
    Prop where
  steady : c.Steady
  present : ∀ object ∈ desired, ¬ missing object -> (c.stored (slotOf object)).isSome = true
  good : ∀ object ∈ desired, ¬ stale object ->
    ∀ existing, c.stored (slotOf object) = some existing -> IsGood existing object
  occupied : ∀ slot, sees slot -> (c.stored slot).isSome = true ->
    surplus slot ∨ ∃ object ∈ desired, slotOf object = slot

/-- Nothing is missing, nothing stale, and nothing in surplus. -/
abbrev Settled (sees : Slot -> Prop) (desired : List (Object kind)) (c : Collection kind) :
    Prop :=
  Underway sees desired (fun _ => False) (fun _ => False) (fun _ => False) c

namespace Underway

variable {sees : Slot -> Prop} {desired : List (Object kind)}
  {missing stale moreMissing moreStale : Object kind -> Prop} {surplus moreSurplus : Slot -> Prop}
  {c d : Collection kind}

/-- To be nearer is to be as near. -/
theorem mono (underway : Underway sees desired missing stale surplus c)
    (missings : ∀ object, missing object -> moreMissing object)
    (stales : ∀ object, stale object -> moreStale object)
    (surpluses : ∀ slot, surplus slot -> moreSurplus slot) :
    Underway sees desired moreMissing moreStale moreSurplus c := by
  refine ⟨underway.steady, ?_, ?_, ?_⟩
  · intro object mem there
    exact underway.present object mem fun isMissing => there (missings object isMissing)
  · intro object mem fresh
    exact underway.good object mem fun isStale => fresh (stales object isStale)
  · intro slot seen held
    exact (underway.occupied slot seen held).imp (surpluses slot) id

/-- Progress is a matter of the stored objects alone. -/
theorem congr (underway : Underway sees desired missing stale surplus c) (alike : c.Alike d)
    (faults : d.faults ⊆ c.faults) : Underway sees desired missing stale surplus d := by
  refine ⟨underway.steady.congr alike faults, ?_, ?_, ?_⟩
  · intro object mem there
    rw [alike.stored]
    exact underway.present object mem there
  · intro object mem fresh existing stored
    rw [alike.stored] at stored
    exact underway.good object mem fresh existing stored
  · intro slot seen held
    rw [alike.stored] at held
    exact underway.occupied slot seen held

/-- A call that stores nothing leaves everything on the way. -/
theorem called (underway : Underway sees desired missing stale surplus c)
    (operation : Store.Operation) :
    Underway sees desired missing stale surplus (c.called operation) :=
  underway.congr Collection.alike_called (List.Subset.refl _)

/-- An object that is there is not missing. -/
theorem found (underway : Underway sees desired missing stale surplus c) {object : Object kind}
    (stored : (c.stored (slotOf object)).isSome = true) :
    Underway sees desired (fun other => missing other ∧ other ≠ object) stale surplus c := by
  refine ⟨underway.steady, ?_, underway.good, underway.occupied⟩
  intro other mem there
  by_cases same : other = object
  · rw [same]
    exact stored
  · exact underway.present other mem fun isMissing => there ⟨isMissing, same⟩

/-- An object that is as desired is not stale, and neither is one that is not there. -/
theorem checked (underway : Underway sees desired missing stale surplus c)
    {object : Object kind}
    (good : ∀ existing, c.stored (slotOf object) = some existing -> IsGood existing object) :
    Underway sees desired missing (fun other => stale other ∧ other ≠ object) surplus c := by
  refine ⟨underway.steady, underway.present, ?_, underway.occupied⟩
  intro other mem fresh
  by_cases same : other = object
  · rw [same]
    exact good
  · exact underway.good other mem fun isStale => fresh ⟨isStale, same⟩

/-- A slot that is empty is not in surplus. -/
theorem emptied (underway : Underway sees desired missing stale surplus c) {slot : Slot}
    (absent : c.stored slot = none) :
    Underway sees desired missing stale (fun other => surplus other ∧ other ≠ slot) c := by
  refine ⟨underway.steady, underway.present, underway.good, ?_⟩
  intro other seen held
  rcases underway.occupied other seen held with isSurplus | wanted
  · refine .inl ⟨isSurplus, ?_⟩
    rintro rfl
    rw [absent] at held
    cases held
  · exact .inr wanted

section

variable (apart : Apart desired)

include apart

/-- A good object that is written in the slot of a desired one is neither missing nor
stale. -/
theorem insert (underway : Underway sees desired missing stale surplus c)
    {object written : Object kind} (mem : object ∈ desired)
    (slot : slotOf written = slotOf object) (good : IsGood (c.versioned written) object) :
    Underway sees desired (fun other => missing other ∧ other ≠ object)
      (fun other => stale other ∧ other ≠ object) surplus (c.insert written) := by
  have elsewhere : ∀ other ∈ desired, other ≠ object ->
      (c.insert written).stored (slotOf other) = c.stored (slotOf other) := by
    intro other among ne
    rw [Collection.stored_insert, slot, if_neg fun same => ne (apart.eq among mem same)]
  have here : (c.insert written).stored (slotOf object) = some (c.versioned written) := by
    rw [Collection.stored_insert, slot, if_pos rfl]
  refine ⟨⟨underway.steady.sound.insert written, underway.steady.passing⟩, ?_, ?_, ?_⟩
  · intro other among there
    by_cases same : other = object
    · rw [same, here]
      rfl
    · rw [elsewhere other among same]
      exact underway.present other among fun isMissing => there ⟨isMissing, same⟩
  · intro other among fresh existing stored
    by_cases same : other = object
    · rw [same, here] at stored
      rw [same, ← Option.some.inj stored]
      exact good
    · rw [elsewhere other among same] at stored
      exact underway.good other among (fun isStale => fresh ⟨isStale, same⟩) existing stored
  · intro other seen held
    by_cases same : other = slotOf object
    · exact .inr ⟨object, mem, same.symm⟩
    · rw [Collection.stored_insert, slot, if_neg same] at held
      exact underway.occupied other seen held

/-- A desired object that is taken away is missing. -/
theorem erase (underway : Underway sees desired missing stale surplus c) {object : Object kind}
    (mem : object ∈ desired) (isMissing : missing object) :
    Underway sees desired missing stale surplus (c.erase (slotOf object)) := by
  have elsewhere : ∀ other ∈ desired, other ≠ object ->
      (c.erase (slotOf object)).stored (slotOf other) = c.stored (slotOf other) := by
    intro other among ne
    rw [Collection.stored_erase, if_neg fun same => ne (apart.eq among mem same)]
  refine ⟨⟨underway.steady.sound.erase _, underway.steady.passing⟩, ?_, ?_, ?_⟩
  · intro other among there
    have ne : other ≠ object := by
      rintro rfl
      exact there isMissing
    rw [elsewhere other among ne]
    exact underway.present other among there
  · intro other among fresh existing stored
    by_cases same : other = object
    · rw [same, Collection.stored_erase, if_pos rfl] at stored
      cases stored
    · rw [elsewhere other among same] at stored
      exact underway.good other among fresh existing stored
  · intro other seen held
    rw [Collection.stored_erase] at held
    split_ifs at held
    · cases held
    · exact underway.occupied other seen held

end

/-- A slot that no desired object is in can be emptied. -/
theorem eraseSurplus (underway : Underway sees desired missing stale surplus c) {slot : Slot}
    (unwanted : ∀ object ∈ desired, slotOf object ≠ slot) :
    Underway sees desired missing stale surplus (c.erase slot) := by
  refine ⟨⟨underway.steady.sound.erase _, underway.steady.passing⟩, ?_, ?_, ?_⟩
  · intro object mem there
    rw [Collection.stored_erase, if_neg (unwanted object mem)]
    exact underway.present object mem there
  · intro object mem fresh existing stored
    rw [Collection.stored_erase, if_neg (unwanted object mem)] at stored
    exact underway.good object mem fresh existing stored
  · intro other seen held
    rw [Collection.stored_erase] at held
    split_ifs at held
    · cases held
    · exact underway.occupied other seen held

end Underway

end GuestFleet
