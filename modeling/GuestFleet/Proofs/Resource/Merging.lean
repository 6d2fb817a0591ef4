import GuestFleet.Proofs.Resource.Treatments

/-!
# Merging again

An object that was merged carries the snapshot of the desired one, so that a merge which is
tried again finds nothing left to do. A merge that cannot succeed fails before anything is
written.
-/

namespace GuestFleet

open Kube (Kind Object)
open Store (Collection View slotOf)
open Store.Collection (Touched mayReplace)

variable {kind : Kind}

namespace Request

/-- An object is merged with the one in its slot, unless that one was written from it. -/
def merging : Treatment kind where
  able
    | _, none => True
    | object, some current => current.needsUpdate object = true ->
        ∃ merged, current.mergeDesired object = .ok merged ∧ mayReplace merged current = true
  fate
    | object, none => .written object.stamped
    | object, some current =>
      if current.needsUpdate object then
        match current.mergeDesired object with
        | .ok merged => .written merged
        | .error _ => .stays
      else .stays

/-- Whatever the object is merged with stays in the object's slot. -/
def MergesInPlace (object : Object kind) : Prop :=
  ∀ current merged : Object kind, current.mergeDesired object = .ok merged ->
    slotOf merged = slotOf object

/-- An object with the snapshot of the desired one needs no update, whatever its version. -/
theorem needsUpdate_dated {written object : Object kind}
    (snapshot : written.lastApplied = some object.snapshotText) (version : Nat) :
    (written.dated version).needsUpdate object = false := by
  have carried : (written.dated version).lastApplied = written.lastApplied := rfl
  rw [Object.needsUpdate, carried, snapshot, bne_self_eq_false]

/-- A merged object is there, and it is not merged again. -/
theorem current_of_merged {first : Nat} {object : Object kind} {before held : Option (Object kind)}
    (done : merging.Done first object before held) :
    ∃ current, held = some current ∧ current.needsUpdate object = false := by
  cases before with
  | none =>
    obtain ⟨version, -, same⟩ := done.befallen
    exact ⟨_, same, needsUpdate_dated (Object.setLastApplied_lastApplied _ _) version⟩
  | some current =>
    have befallen := done.befallen
    by_cases outdated : current.needsUpdate object = true
    · obtain ⟨merged, merges, -⟩ := done.able outdated
      simp only [merging, outdated, if_true, merges] at befallen
      obtain ⟨version, -, same⟩ := befallen
      exact ⟨_, same, needsUpdate_dated (Object.mergeDesired_lastApplied merges) version⟩
    · simp only [merging, outdated] at befallen
      exact ⟨current, befallen, Bool.not_eq_true _ ▸ outdated⟩

/-- What a merge does in a slot that holds an object written from another one. -/
theorem ends_replaceMerged {object current merged : Object kind} {c : Collection kind}
    {first : Nat} (steady : c.Steady) (late : first ≤ c.nextVersion)
    (stored : c.stored (slotOf object) = some current)
    (outdated : current.needsUpdate object = true) (inPlace : MergesInPlace object)
    (merges : current.mergeDesired object = .ok merged) :
    (replace merged).Ends (View.collection kind).around c
      (fun _ d => Touched [slotOf object] c d ∧
        merging.Done first object (some current) (d.stored (slotOf object)))
      fun _ d => Touched [slotOf object] c d ∧
        merging.Begun first object (some current) (d.stored (slotOf object)) ∧
        (merging.able object (some current) -> c.faults ≠ []) := by
  have here := inPlace current merged merges
  have fate : merging.fate object (some current) = .written merged := by
    simp only [merging, outdated, if_true, merges]
  have unchanged : merging.Begun first object (some current) (c.stored (slotOf object)) :=
    .inl stored
  refine ends_replaceOne ?_ ?_ ?_ ?_
  · intro existing there may
    rw [here, stored] at there
    obtain rfl := Option.some.inj there
    have mem : slotOf merged ∈ [slotOf object] := List.mem_singleton.2 here
    refine ⟨(Touched.called steady .replace).insert mem, fun _ => ⟨merged, merges, may⟩, ?_⟩
    rw [fate, Collection.stored_insert, here, if_pos rfl]
    exact ⟨c.nextVersion, late, rfl⟩
  · intro existing there refused
    rw [here, stored] at there
    obtain rfl := Option.some.inj there
    refine ⟨Touched.called steady .replace, unchanged, fun able => ?_⟩
    obtain ⟨other, same, may⟩ := able outdated
    obtain rfl := Except.ok.inj (merges.symm.trans same)
    cases refused.symm.trans may
  · intro absent
    rw [here, stored] at absent
    cases absent
  · intro fault mem
    exact ⟨Touched.called steady .replace, unchanged, fun _ => List.ne_nil_of_mem mem⟩

/-- What a merge does in an empty slot. -/
theorem ends_createStamped {object : Object kind} {c : Collection kind} {first : Nat}
    (steady : c.Steady) (late : first ≤ c.nextVersion) (absent : c.stored (slotOf object) = none) :
    (createOne object.stamped).Ends (View.collection kind).around c
      (fun _ d => Touched [slotOf object] c d ∧
        merging.Done first object none (d.stored (slotOf object)))
      fun _ d => Touched [slotOf object] c d ∧
        merging.Begun first object none (d.stored (slotOf object)) ∧ c.faults ≠ [] := by
  have here : slotOf object.stamped = slotOf object := rfl
  refine ends_createOne ?_ ?_ ?_
  · intro _
    have mem : slotOf object.stamped ∈ [slotOf object] := List.mem_singleton.2 here
    refine ⟨(Touched.called steady .create).insert mem, trivial, ?_⟩
    rw [Collection.stored_insert, here, if_pos rfl]
    exact ⟨c.nextVersion, late, rfl⟩
  · intro existing there
    rw [here, absent] at there
    cases there
  · intro fault mem
    rw [if_neg (steady.passing fault mem).not_existing]
    exact ⟨Touched.called steady .create, .inl absent, List.ne_nil_of_mem mem⟩

/-- Merging one object treats it, as often as it is tried. -/
theorem treats_mergeOne {object : Object kind} (inPlace : MergesInPlace object) :
    (mergeOne object).Treats merging [object] := by
  refine treats_single fun first before c steady late begun => ?_
  have reads := reads_getOptional steady object.metadata.namespaceName object.name
  refine ends_bind.2 (Ends.mono reads ?_ ?_)
  · rintro found d ⟨unwritten, rfl⟩
    have touched : Touched [slotOf object] c d := .of_unwritten steady unwritten
    have lateHere := late.trans touched.later
    have same : c.stored (.make object.metadata.namespaceName object.name) =
        d.stored (slotOf object) := (unwritten.alike.stored _).symm
    have begunHere : merging.Begun first object before (d.stored (slotOf object)) := by
      rwa [unwritten.alike.stored]
    rw [same]
    cases stored : d.stored (slotOf object) with
    | none =>
      rw [stored] at begunHere
      have empty : before = none := by
        rcases begunHere with same | done | ⟨never, -⟩
        · exact same.symm
        · obtain ⟨current, held, -⟩ := current_of_merged done
          cases held
        · exact never.elim
      subst empty
      refine Ends.mono (ends_createStamped touched.steady lateHere stored) ?_ ?_
      · rintro _ e ⟨touchedLater, done⟩
        exact ⟨touched.trans touchedLater, done⟩
      · rintro _ e ⟨touchedLater, left, some⟩
        exact ⟨touched.trans touchedLater, left, fun _ none => some (touched.unfailing none)⟩
    | some current =>
      rw [stored] at begunHere
      show Ends _ (if _ then _ else _) _ _ _
      split_ifs with outdated
      · have untreated : before = some current := by
          rcases begunHere with same | done | ⟨never, -⟩
          · exact same.symm
          · obtain ⟨other, held, fresh⟩ := current_of_merged done
            obtain rfl := Option.some.inj held
            cases fresh.symm.trans outdated
          · exact never.elim
        subst untreated
        cases merges : current.mergeDesired object with
        | error failure =>
          refine ends_throw.2 ⟨touched, .inl stored, fun able => ?_⟩
          obtain ⟨merged, same, -⟩ := able outdated
          cases merges.symm.trans same
        | ok merged =>
          have replaces := ends_replaceMerged touched.steady lateHere stored outdated
            inPlace merges
          refine ends_bind.2 (Ends.mono replaces ?_ ?_)
          · rintro _ e ⟨touchedLater, done⟩
            exact ends_pure.2 ⟨touched.trans touchedLater, done⟩
          · rintro _ e ⟨touchedLater, left, faulty⟩
            exact ⟨touched.trans touchedLater, left,
              fun able none => faulty able (touched.unfailing none)⟩
      · rw [Bool.not_eq_true] at outdated
        refine ends_pure.2 ⟨touched, ?_⟩
        rw [stored]
        rcases begunHere with rfl | done | ⟨never, -⟩
        · refine ⟨fun claimed => ?_, ?_⟩
          · cases outdated.symm.trans claimed
          · simp only [merging, outdated]
            exact rfl
        · exact done
        · exact never.elim
  · rintro failure d ⟨unwritten, some, -⟩
    refine ⟨.of_unwritten steady unwritten, ?_, fun _ => some⟩
    rwa [unwritten.alike.stored]

/-- Merging one object after the other treats them all. -/
theorem treats_mergeAll {objects : List (Object kind)} (apart : Apart objects)
    (inPlace : ∀ object ∈ objects, MergesInPlace object) :
    (mergeAll objects).Treats merging objects :=
  treats_each mergeOne rfl (fun _ _ => rfl) (Treatment.uniform_of_apart _ apart)
    fun object mem => treats_mergeOne (inPlace object mem)

end Request

end GuestFleet
