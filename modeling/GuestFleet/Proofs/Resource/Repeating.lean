import GuestFleet.Proofs.Change.Merged
import GuestFleet.Proofs.Resource.Merging
import GuestFleet.Proofs.Store.Writes

/-!
# Merging until it succeeds

A list of objects is merged again and again as long as the failures may pass, while more such
failures may be ordered at any time. However often that is, every object is written at most once,
and only if it was not up to date; what is written is in the slot that was read, so that the next
attempt finds it there and up to date.
-/

namespace GuestFleet

open Kube (Kind Object)
open Store (Collection Fault Slot Storm View World Write slotOf)
open Store.Collection (Touched mayReplace)

variable {kind : Kind}

namespace Request

/-! ## Up to date -/

/-- What is stored in the slot of an object was written from that object. -/
def UpToDate (c : Collection kind) (object : Object kind) : Prop :=
  ∃ held, c.stored (slotOf object) = some held ∧ held.lastApplied = some object.snapshotText

/-- Whether an object is up to date is a matter of its slot. -/
theorem upToDate_congr {c d : Collection kind} {object : Object kind}
    (same : d.stored (slotOf object) = c.stored (slotOf object)) :
    UpToDate d object <-> UpToDate c object := by
  unfold UpToDate
  rw [same]

/-- What was just written with the snapshot of an object has brought it up to date. -/
theorem upToDate_insert {c : Collection kind} {object written : Object kind}
    (slot : slotOf written = slotOf object)
    (snapshot : written.lastApplied = some object.snapshotText) :
    UpToDate (c.insert written) object := by
  refine ⟨c.versioned written, ?_, snapshot⟩
  rw [Collection.stored_insert, slot, if_pos rfl]

/-! ## One object -/

/-- Merging one object has found it up to date, or has written it once. -/
def MergedOne (object : Object kind) (c : Collection kind) (writes : List Write)
    (after : Collection kind × List Write) : Prop :=
  (UpToDate c object ∧ c.Unwritten after.1 ∧ after.2 = writes) ∨
    (¬ UpToDate c object ∧ Touched [slotOf object] c after.1 ∧ UpToDate after.1 object ∧
      ∃ operation, after.2 = ⟨operation, slotOf object⟩ :: writes)

/-- Merging one object has failed before anything was written. An object that is up to date is
not even tried to be written. -/
def FailedOne (object : Object kind) (c : Collection kind) (writes : List Write)
    (after : Collection kind × List Write) : Prop :=
  Touched [] c after.1 ∧ after.2 = writes ∧ (UpToDate c object -> c.Unwritten after.1)

/-- One write to the slot of an outdated object merges it. -/
theorem mergedOne_written {object written : Object kind} {c d : Collection kind}
    (touched : Touched [] c d) (outdated : ¬ UpToDate c object)
    (slot : slotOf written = slotOf object)
    (snapshot : written.lastApplied = some object.snapshotText) (operation : Store.Operation)
    (writes : List Write) :
    MergedOne object c writes
      ((d.called operation).insert written, ⟨operation, slotOf written⟩ :: writes) := by
  have own : slotOf written ∈ [slotOf object] := List.mem_singleton.2 slot
  have inserted : Touched [slotOf object] d ((d.called operation).insert written) :=
    (Touched.called touched.steady operation).insert own
  refine .inr ⟨outdated, (touched.mono (List.nil_subset _)).trans inserted,
    upToDate_insert slot snapshot, operation, ?_⟩
  rw [slot]

/-- A failure before the write leaves an outdated object as it was. -/
theorem failedOne_outdated {object : Object kind} {c d : Collection kind} {writes : List Write}
    {after : Collection kind × List Write} (touched : Touched [] c d)
    (outdated : ¬ UpToDate c object) (failed : Touched [] d after.1 ∧ after.2 = writes) :
    FailedOne object c writes after :=
  ⟨touched.trans failed.1, failed.2, fun current => absurd current outdated⟩

/-- Looking for an object writes nothing, and finds what is in its slot. -/
theorem ends_getOptional_written {c : Collection kind} (steady : c.Steady) (writes : List Write)
    (space : Option String) (name : String) :
    (getOptional kind space name).Ends (View.written kind).around (c, writes)
      (fun found after => c.Unwritten after.1 ∧ after.2 = writes ∧
        found = c.stored (.make space name))
      fun _ after => c.Unwritten after.1 ∧ after.2 = writes := by
  refine ends_written_of_alone (isCall_getOptional _ _ _) fun faults among => ?_
  refine ends_bind.2 (ends_attempt.2 (ends_get_written_alone ?_))
  rcases Collection.get_cases { c with faults := faults } (.make space name) with
    ⟨fault, others, taken, eq⟩ | ⟨-, ⟨object, stored, eq⟩ | ⟨stored, eq⟩⟩
  · rw [eq]
    have passes := steady.passing fault (among (Collection.mem_of_takeFault taken))
    show Ends _ (if Failure.isNotFound _ then _ else _) _ _ _
    rw [if_neg (mt Failure.isNotFound_injected.1 passes.not_absent)]
    exact ends_throw.2 ⟨.called (.inl rfl), rfl⟩
  · rw [eq]
    exact ends_pure.2 ⟨.called (.inl rfl), rfl, stored.symm⟩
  · rw [eq]
    exact ends_pure.2 ⟨.called (.inl rfl), rfl, stored.symm⟩

/-- Creating an object in an empty slot writes that slot once, or fails without a write. -/
theorem ends_createOne_written {c : Collection kind} (steady : c.Steady) (writes : List Write)
    {object : Object kind} (absent : c.stored (slotOf object) = none) :
    (createOne object).Ends (View.written kind).around (c, writes)
      (fun _ after => after =
        ((c.called .create).insert object, ⟨.create, slotOf object⟩ :: writes))
      fun _ after => Touched [] c after.1 ∧ after.2 = writes := by
  refine ends_written_of_alone (isCall_createOne _) fun faults among => ?_
  refine ends_bind.2 (ends_attempt.2 (ends_create_written_alone ?_))
  rcases Collection.create_cases { c with faults := faults } object with
    ⟨fault, others, taken, eq⟩ | ⟨-, ⟨existing, stored, -⟩ | ⟨-, eq⟩⟩
  · rw [eq]
    have passes := steady.passing fault (among (Collection.mem_of_takeFault taken))
    show Ends _ (if Failure.isAlreadyExists _ then _ else _) _ _ _
    rw [if_neg (mt Failure.isAlreadyExists_injected.1 passes.not_existing)]
    exact ends_throw.2 ⟨Touched.called steady .create, rfl⟩
  · cases absent.symm.trans stored
  · rw [eq]
    exact ends_pure.2 rfl

/-- Replacing an object writes its slot once, or fails without a write. -/
theorem ends_replaceOne_written {c : Collection kind} (steady : c.Steady) (writes : List Write)
    (object : Object kind) :
    (replace object).Ends (View.written kind).around (c, writes)
      (fun _ after => after =
        ((c.called .replace).insert object, ⟨.replace, slotOf object⟩ :: writes))
      fun _ after => Touched [] c after.1 ∧ after.2 = writes := by
  refine ends_written_of_alone (isCall_replace _) fun faults _ => ends_replace_written_alone ?_
  rcases Collection.replace_cases { c with faults := faults } object with
    ⟨fault, others, taken, eq⟩ | ⟨-, ⟨-, eq⟩ | ⟨existing, -, -, eq⟩ | ⟨existing, -, -, eq⟩⟩
  · rw [eq]
    exact ⟨Touched.called steady .replace, rfl⟩
  · rw [eq]
    exact ⟨Touched.called steady .replace, rfl⟩
  · rw [eq]
    exact ⟨Touched.called steady .replace, rfl⟩
  · rw [eq]
    rfl

/-- A try to merge one object writes it once, finds it up to date, or fails without a write. -/
theorem ends_mergeOne_written {c : Collection kind} (steady : c.Steady) (writes : List Write)
    (object : Object kind) :
    (mergeOne object).Ends (View.written kind).around (c, writes)
      (fun _ => MergedOne object c writes) fun _ => FailedOne object c writes := by
  have reads := ends_getOptional_written steady writes object.metadata.namespaceName object.name
  refine ends_bind.2 (Ends.mono reads ?_ ?_)
  · rintro found ⟨d, writes⟩ ⟨unwritten, rfl, rfl⟩
    have touched : Touched [] c d := .of_unwritten steady unwritten
    have here : c.stored (slotOf object) = d.stored (slotOf object) :=
      (unwritten.alike.stored _).symm
    have isRead : c.stored (.make object.metadata.namespaceName object.name) =
        d.stored (slotOf object) := here
    rw [isRead]
    cases stored : d.stored (slotOf object) with
    | none =>
      have outdated : ¬ UpToDate c object := by
        rintro ⟨held, there, -⟩
        cases there.symm.trans (here.trans stored)
      refine Ends.mono (ends_createOne_written touched.steady writes stored) ?_ ?_
      · rintro _ _ rfl
        have inPlace : slotOf object.stamped = slotOf object := rfl
        exact mergedOne_written touched outdated inPlace (Object.setLastApplied_lastApplied _ _) _ _
      · exact fun failure after failed => failedOne_outdated touched outdated failed
    | some current =>
      have held : c.stored (slotOf object) = some current := here.trans stored
      show Ends _ (if _ then _ else _) _ _ _
      split_ifs with needed
      · have outdated : ¬ UpToDate c object := by
          rintro ⟨other, there, snapshot⟩
          obtain rfl := Option.some.inj (held.symm.trans there)
          rw [Object.needsUpdate, snapshot, bne_self_eq_false] at needed
          cases needed
        cases merges : current.mergeDesired object with
        | error failure =>
          exact ends_throw.2 ⟨touched, rfl, fun current => absurd current outdated⟩
        | ok merged =>
          have inPlace := Object.slotOf_mergeDesired merges (steady.sound.slotOf_stored held)
          have replaces := ends_replaceOne_written touched.steady writes merged
          refine ends_bind.2 (Ends.mono replaces ?_ ?_)
          · rintro _ _ rfl
            exact ends_pure.2 (mergedOne_written touched outdated inPlace
              (Object.mergeDesired_lastApplied merges) _ _)
          · exact fun failure after failed => failedOne_outdated touched outdated failed
      · refine ends_pure.2 (.inl ⟨⟨current, held, ?_⟩, unwritten, rfl⟩)
        simpa [Object.needsUpdate] using needed
  · rintro failure after ⟨unwritten, unchanged⟩
    exact ⟨.of_unwritten steady unwritten, unchanged, fun _ => unwritten⟩

/-! ## Many objects -/

/-- How often a slot was written. -/
def timesWritten (slot : Slot) (writes : List Write) : Nat :=
  writes.countP fun write => write.slot = slot

/-- A write to a slot counts there. -/
theorem timesWritten_cons_self (slot : Slot) (operation : Store.Operation) (writes : List Write) :
    timesWritten slot (⟨operation, slot⟩ :: writes) = timesWritten slot writes + 1 := by
  simp [timesWritten]

/-- A write to another slot does not. -/
theorem timesWritten_cons_of_ne {slot other : Slot} (ne : other ≠ slot)
    (operation : Store.Operation) (writes : List Write) :
    timesWritten slot (⟨operation, other⟩ :: writes) = timesWritten slot writes := by
  simp [timesWritten, ne]

/-- What tries to merge some objects may have made of a slot: nothing, or one of the objects is in
it that was not up to date before, by one write. -/
def Settled (objects : List (Object kind)) (before after : Collection kind × List Write)
    (slot : Slot) : Prop :=
  (after.1.stored slot = before.1.stored slot ∧
      timesWritten slot after.2 = timesWritten slot before.2) ∨
    ∃ object ∈ objects, slotOf object = slot ∧ ¬ UpToDate before.1 object ∧
      UpToDate after.1 object ∧ timesWritten slot after.2 = timesWritten slot before.2 + 1

/-- What tries to merge some objects may have made of a collection and its writes. -/
structure Merging (objects : List (Object kind)) (before after : Collection kind × List Write) :
    Prop where
  steady : after.1.Steady
  settled : ∀ slot, Settled objects before after slot

section

variable {objects : List (Object kind)} {before after : Collection kind × List Write}

/-- Without any try nothing has changed. -/
theorem Merging.refl (steady : before.1.Steady) : Merging objects before before :=
  ⟨steady, fun _ => .inl ⟨rfl, rfl⟩⟩

/-- Slots that nothing more happens to stay as they are. -/
theorem Settled.congr {later : Collection kind × List Write} {slot : Slot}
    (settled : Settled objects before after slot)
    (stored : later.1.stored slot = after.1.stored slot)
    (times : timesWritten slot later.2 = timesWritten slot after.2) :
    Settled objects before later slot := by
  rcases settled with ⟨same, never⟩ | ⟨object, mem, rfl, outdated, current, once⟩
  · exact .inl ⟨stored.trans same, times.trans never⟩
  · exact .inr ⟨object, mem, rfl, outdated, (upToDate_congr stored).2 current, times.trans once⟩

/-- A try that failed without a write leaves everything as it was. -/
theorem Merging.failed {object : Object kind} {later : Collection kind × List Write}
    (merging : Merging objects before after) (failed : FailedOne object after.1 after.2 later) :
    Merging objects before later := by
  obtain ⟨touched, writes, -⟩ := failed
  refine ⟨touched.steady, fun slot => ?_⟩
  exact (merging.settled slot).congr (touched.elsewhere slot List.not_mem_nil) (by rw [writes])

/-- An object that is written was not up to date at the start either, since no other object is in
its slot. -/
theorem Merging.merged {object : Object kind} {later : Collection kind × List Write}
    (merging : Merging objects before after) (apart : Apart objects) (mem : object ∈ objects)
    (merged : MergedOne object after.1 after.2 later) : Merging objects before later := by
  rcases merged with ⟨-, unwritten, writes⟩ | ⟨outdated, touched, current, operation, writes⟩
  · refine ⟨unwritten.steady merging.steady, fun slot => ?_⟩
    exact (merging.settled slot).congr (unwritten.alike.stored slot) (by rw [writes])
  · refine ⟨touched.steady, fun slot => ?_⟩
    by_cases own : slotOf object = slot
    · subst own
      rcases merging.settled (slotOf object) with ⟨same, never⟩ | ⟨other, among, here, -, fresh, -⟩
      · refine .inr ⟨object, mem, rfl, mt (upToDate_congr same).2 outdated, current, ?_⟩
        rw [writes, timesWritten_cons_self, never]
      · obtain rfl := apart.eq among mem here
        exact absurd fresh outdated
    · refine (merging.settled slot).congr (touched.elsewhere slot ?_) ?_
      · exact fun here => own (List.mem_singleton.1 here).symm
      · rw [writes, timesWritten_cons_of_ne own]

/-- Merging one object leaves others up to date. -/
theorem MergedOne.keeps {object other : Object kind} {later : Collection kind × List Write}
    (merged : MergedOne object after.1 after.2 later) (apart : Apart objects)
    (mem : object ∈ objects) (among : other ∈ objects) (current : UpToDate after.1 other) :
    UpToDate later.1 other := by
  rcases merged with ⟨-, unwritten, -⟩ | ⟨outdated, touched, -⟩
  · exact (upToDate_congr (unwritten.alike.stored _)).2 current
  · refine (upToDate_congr (touched.elsewhere _ fun here => outdated ?_)).2 current
    obtain rfl := apart.eq among mem (List.mem_singleton.1 here)
    exact current

/-- An object that was merged is up to date. -/
theorem MergedOne.upToDate {object : Object kind} {later : Collection kind × List Write}
    (merged : MergedOne object after.1 after.2 later) : UpToDate later.1 object := by
  rcases merged with ⟨current, unwritten, -⟩ | ⟨-, -, current, -⟩
  · exact (upToDate_congr (unwritten.alike.stored _)).2 current
  · exact current

end

/-- A try to merge all objects goes on from where the tries before it have come, and one that ends
well leaves all of them up to date. The induction is on what is left of the list; those that were
merged stay up to date. -/
theorem ends_mergeAll_written {objects : List (Object kind)} (apart : Apart objects)
    {before state : Collection kind × List Write} (merging : Merging objects before state)
    {done left : List (Object kind)} (split : objects = done ++ left)
    (current : ∀ object ∈ done, UpToDate state.1 object) :
    (mergeAll left).Ends (View.written kind).around state
      (fun _ after => Merging objects before after ∧ ∀ object ∈ objects, UpToDate after.1 object)
      fun _ after => Merging objects before after := by
  induction left generalizing done state with
  | nil =>
    rw [List.append_nil] at split
    subst split
    exact ends_pure.2 ⟨merging, current⟩
  | cons object left ih =>
    have mem : object ∈ objects := by simp [split]
    have one := ends_mergeOne_written merging.steady state.2 object
    refine ends_bind.2 (Ends.mono one ?_ ?_)
    · intro _ after merged
      refine ih (merging.merged apart mem merged) (split.trans (List.append_cons _ _ _)) ?_
      intro other among
      rcases List.mem_append.1 among with among | isObject
      · have wanted : other ∈ objects := split ▸ List.mem_append_left _ among
        exact merged.keeps apart mem wanted (current other among)
      · rw [List.mem_singleton.1 isObject]
        exact merged.upToDate
    · intro failure after failed
      exact merging.failed failed

/-- When all objects are up to date, merging them again only reads. -/
theorem ends_mergeAll_idle {objects : List (Object kind)} {c : Collection kind}
    (steady : c.Steady) (current : ∀ object ∈ objects, UpToDate c object) (writes : List Write) :
    (mergeAll objects).Ends (View.written kind).around (c, writes)
      (fun _ after => c.Unwritten after.1 ∧ after.2 = writes)
      fun _ after => c.Unwritten after.1 ∧ after.2 = writes := by
  induction objects generalizing c with
  | nil => exact ends_pure.2 ⟨.refl, rfl⟩
  | cons object objects ih =>
    have isCurrent := current object List.mem_cons_self
    refine ends_bind.2 (Ends.mono (ends_mergeOne_written steady writes object) ?_ ?_)
    · rintro _ ⟨d, _⟩ (⟨-, unwritten, rfl⟩ | ⟨outdated, -⟩)
      · have still (other) (mem : other ∈ objects) : UpToDate d other :=
          (upToDate_congr (unwritten.alike.stored _)).2
            (current other (List.mem_cons_of_mem _ mem))
        refine Ends.mono (ih (unwritten.steady steady) still) ?_ ?_
        · rintro _ after ⟨later, same⟩
          exact ⟨unwritten.trans later, same⟩
        · rintro _ after ⟨later, same⟩
          exact ⟨unwritten.trans later, same⟩
      · exact absurd isCurrent outdated
    · rintro failure after ⟨-, same, reads⟩
      exact ⟨reads isCurrent, same⟩

/-! ## Attempts -/

/-- Attempts of a request one after the other, until one ends without a failure that may pass.
More failures that may pass can be ordered before each attempt and before each command in it. -/
inductive Repeated (request : Request α) : World -> Except Failure α -> World -> Prop where
  | last {world : World} {storm : Storm} (passes : storm.Passes)
      (final : ∀ failure, (world.runAmid storm request.run).1 = .error failure ->
        failure.isRetryable = false) :
      Repeated request world (world.runAmid storm request.run).1
        (world.runAmid storm request.run).2
  | again {world after : World} {storm : Storm} (passes : storm.Passes) {failure : Failure}
      {result : Except Failure α}
      (failed : (world.runAmid storm request.run).1 = .error failure)
      (retryable : failure.isRetryable = true)
      (rest : Repeated request (world.runAmid storm request.run).2 result after) :
      Repeated request world result after
  | ordered {world after : World} {result : Except Failure α} (kind : Kind) (times : Nat)
      {fault : Fault} (passes : fault.Passes)
      (rest : Repeated request (world.failNext kind times fault) result after) :
      Repeated request world result after

/-- Attempts only add to the log. -/
theorem Repeated.log {request : Request α} {world after : World} {result : Except Failure α}
    (repeated : Repeated request world result after) : ∃ new, after.log = new ++ world.log := by
  induction repeated with
  | last passes final => exact Store.log_runAmid _ _ _
  | @again _ _ storm passes _ _ failed retryable rest ih =>
    obtain ⟨late, grown⟩ := ih
    obtain ⟨early, first⟩ := Store.log_runAmid _ storm request.run
    exact ⟨late ++ early, by rw [grown, first, List.append_assoc]⟩
  | ordered kind times passes rest ih => exact ih

/-- Ordering failures that may pass changes nothing that is stored or was written. -/
theorem Merging.failNext {objects : List (Object kind)} {before : Collection kind × List Write}
    {world : World} (merging : Merging objects before ((View.written kind).see world))
    (other : Kind) (times : Nat) {fault : Fault} (passes : fault.Passes) :
    Merging objects before ((View.written kind).see (world.failNext other times fault)) := by
  by_cases same : kind = other
  · subst same
    have seen : (View.written kind).see (world.failNext kind times fault) =
        ((world.collections.get kind).failNext times fault,
          Store.writesIn kind world.log) :=
      congrArg (·, Store.writesIn kind world.log) (Store.Collections.get_set _ kind _)
    rw [seen]
    refine ⟨⟨merging.steady.sound.congr rfl rfl, fun found mem => ?_⟩, merging.settled⟩
    rcases List.mem_append.1 mem with mem | mem
    · exact merging.steady.passing found mem
    · rw [List.eq_of_mem_replicate mem]
      exact passes
  · have seen : (View.written kind).see (world.failNext other times fault) =
        (View.written kind).see world :=
      congrArg (·, Store.writesIn kind world.log) (Store.Collections.get_set_of_ne _ _ same)
    rwa [seen]

/-- A storm that may pass does not show in what is stored or was written. -/
theorem Merging.amid {objects : List (Object kind)} {before : Collection kind × List Write}
    {world : World} (merging : Merging objects before ((View.written kind).see world))
    {storm : Storm} (passes : storm.Passes) :
    Merging objects before ((View.written kind).see (world.amid storm)) := by
  refine ⟨Collection.Steady.amid merging.steady passes, ?_⟩
  rw [World.amid, View.written_awaiting]
  exact merging.settled

/-- Nor do failures that may come and have not been ordered. -/
theorem Merging.faced {objects : List (Object kind)} {before : Collection kind × List Write}
    {world : World} {hazards : Kind -> List Fault}
    (merging : Merging objects before ((View.written kind).see (world.awaiting hazards)))
    (faces : world.Faces hazards) : Merging objects before ((View.written kind).see world) := by
  rw [View.written_awaiting] at merging
  refine ⟨⟨merging.steady.sound.congr rfl rfl, fun fault mem => ?_⟩, merging.settled⟩
  exact merging.steady.passing fault (faces kind mem)

/-- One attempt in a storm leaves at most what attempts may leave, and all objects up to date if it
ends well. -/
theorem Merging.attempt {objects : List (Object kind)} (apart : Apart objects)
    {before : Collection kind × List Write} {world : World}
    (merging : Merging objects before ((View.written kind).see world)) {storm : Storm}
    (passes : storm.Passes) :
    let ended := world.runAmid storm (mergeAll objects).run
    Merging objects before ((View.written kind).see ended.2) ∧
      (ended.1 = .ok () -> ∀ object ∈ objects, UpToDate (ended.2.collections.get kind) object) := by
  intro ended
  have ends := ends_mergeAll_written apart (merging.amid passes) (List.nil_append objects).symm
    fun object mem => absurd mem List.not_mem_nil
  have atEnd := (View.written kind).amid_of_ends ends
  have faces := world.faces_runAmid storm (mergeAll objects).run
  cases result : ended.1 with
  | ok value =>
    rw [result] at atEnd
    obtain ⟨merging, current⟩ := atEnd
    rw [View.written_awaiting] at current
    exact ⟨merging.faced faces, fun _ => current⟩
  | error failure =>
    rw [result] at atEnd
    exact ⟨Merging.faced atEnd faces, nofun⟩

/-- All attempts together write each object once at most, and the last one leaves all up to date if
it ends well. The induction is on the attempts. -/
theorem Repeated.merging {objects : List (Object kind)} (apart : Apart objects)
    {before : Collection kind × List Write} {world after : World} {result : Except Failure Unit}
    (repeated : Repeated (mergeAll objects) world result after)
    (merging : Merging objects before ((View.written kind).see world)) :
    Merging objects before ((View.written kind).see after) ∧
      (result = .ok () -> ∀ object ∈ objects, UpToDate (after.collections.get kind) object) := by
  induction repeated with
  | last passes final => exact merging.attempt apart passes
  | again passes failed retryable rest ih => exact ih (merging.attempt apart passes).1
  | ordered other times passes rest ih => exact ih (merging.failNext other times passes)

/-- Where all objects are up to date, one more attempt in a storm that may pass only reads. -/
theorem unwritten_mergeAll {objects : List (Object kind)} {world : World}
    (steady : (world.collections.get kind).Steady)
    (current : ∀ object ∈ objects, UpToDate (world.collections.get kind) object) {storm : Storm}
    (passes : storm.Passes) :
    ((world.amid storm).collections.get kind).Unwritten
      ((world.runAmid storm (mergeAll objects).run).2.collections.get kind) := by
  have still (object) (mem : object ∈ objects) :
      UpToDate ((world.amid storm).collections.get kind) object := by
    refine (upToDate_congr ?_).2 (current object mem)
    rw [World.amid, World.get_awaiting]
    rfl
  have seen : (View.written kind).see (world.amid storm) =
      ((world.amid storm).collections.get kind, Store.writesIn kind world.log) := rfl
  have idle := ends_mergeAll_idle (steady.amid passes) still (Store.writesIn kind world.log)
  rw [← seen] at idle
  have atEnd := (View.written kind).amid_of_ends idle
  have faces := world.faces_runAmid storm (mergeAll objects).run
  exact Either.elim atEnd (fun _ ended => ended.1.faced faces) fun _ ended => ended.1.faced faces

/-- When attempts to merge objects have ended well, every one of them is stored with its snapshot
and was written once at most. Nothing else was written, nor were those that had carried that
snapshot before, and one more attempt only reads. -/
theorem mergeAll_repeated {objects : List (Object kind)} (apart : Apart objects)
    {world after : World} (steady : (world.collections.get kind).Steady)
    (repeated : Repeated (mergeAll objects) world (.ok ()) after) :
    let before := world.collections.get kind
    let now := after.collections.get kind
    (∀ object ∈ objects,
      timesWritten (slotOf object) (after.writesSince world kind) ≤ 1 ∧ UpToDate now object) ∧
    (∀ slot, (slot ∉ slotsOf objects ∨
        ∃ object ∈ objects, slotOf object = slot ∧ UpToDate before object) ->
      timesWritten slot (after.writesSince world kind) = 0 ∧
        now.stored slot = before.stored slot) ∧
    ∀ storm : Storm, storm.Passes ->
      ((after.amid storm).collections.get kind).Unwritten
        ((after.runAmid storm (mergeAll objects).run).2.collections.get kind) := by
  intro before now
  obtain ⟨merging, current⟩ := repeated.merging apart (.refl steady)
  obtain ⟨new, grown⟩ := repeated.log
  have since (slot : Slot) : timesWritten slot (Store.writesIn kind after.log) =
      timesWritten slot (after.writesSince world kind) +
        timesWritten slot (Store.writesIn kind world.log) := by
    rw [Store.writesIn_of_grown grown kind, timesWritten, List.countP_append, List.countP_reverse]
    rfl
  have start : (View.written kind).see world = (before, Store.writesIn kind world.log) := rfl
  have finish : (View.written kind).see after = (now, Store.writesIn kind after.log) := rfl
  rw [start, finish] at merging
  refine ⟨fun object mem => ⟨?_, current rfl object mem⟩, fun slot untouched => ?_,
    fun storm passes => unwritten_mergeAll merging.steady (current rfl) passes⟩
  · rcases merging.settled (slotOf object) with ⟨-, never⟩ | ⟨other, -, -, -, -, once⟩
    · simp only [since] at never
      omega
    · simp only [since] at once
      omega
  · rcases merging.settled slot with ⟨same, never⟩ | ⟨object, mem, rfl, outdated, -⟩
    · simp only [since] at never
      exact ⟨by omega, same⟩
    · rcases untouched with outside | ⟨other, among, here, fresh⟩
      · exact absurd (List.mem_map_of_mem mem) outside
      · obtain rfl := apart.eq among mem here
        exact absurd fresh outdated

/-- A config map without data. -/
def bareConfigMap (name : String) (labels : Option Kube.StringMap) : Object .configMap :=
  { metadata := { name := some name, labels := labels }, body := {} }

/-- Two config maps: one to get a label, and one to be created. -/
def bareConfigMaps : List (Object .configMap) :=
  [bareConfigMap "a" (some [("app", "master")]), bareConfigMap "b" none]

/-- A world that holds the first one without its label, and another one. -/
def unlabelledWorld : World :=
  (({} : World).insert (bareConfigMap "a" none)).insert (bareConfigMap "c" none)

/-- The first attempt breaks off when one object is written, since the server is overloaded from
the fourth command on. -/
def brokenOff : Except Failure Unit × World :=
  unlabelledWorld.runAmid (Store.overload 3 1 .configMap .create) (mergeAll bareConfigMaps).run

/-- The second attempt writes the other object alone, and a third one in such a storm only reads. -/
theorem mergeAll_repeated_twice :
    let overloaded := Store.overload 3 1 .configMap .create
    let after := (brokenOff.2.runAmid [] (mergeAll bareConfigMaps).run).2
    (Apart bareConfigMaps ∧ (unlabelledWorld.collections.get .configMap).Steady ∧
        Repeated (mergeAll bareConfigMaps) unlabelledWorld (.ok ()) after) ∧
      after.writesSince unlabelledWorld .configMap =
        [⟨.replace, ⟨"", "a"⟩⟩, ⟨.create, ⟨"", "b"⟩⟩] ∧
      (∀ object ∈ bareConfigMaps,
        timesWritten (slotOf object) (after.writesSince unlabelledWorld .configMap) ≤ 1 ∧
          UpToDate (after.collections.get .configMap) object) ∧
      (after.collections.get .configMap).stored ⟨"", "c"⟩ =
        (unlabelledWorld.collections.get .configMap).stored ⟨"", "c"⟩ ∧
      ((after.amid overloaded).collections.get .configMap).Unwritten
        ((after.runAmid overloaded (mergeAll bareConfigMaps).run).2.collections.get
          .configMap) := by
  intro overloaded after
  have apart : Apart bareConfigMaps := by
    unfold Apart
    decide
  have sound : (unlabelledWorld.collections.get .configMap).Sound :=
    (Collection.sound_empty.insert _).insert _
  have steady : (unlabelledWorld.collections.get .configMap).Steady := sound.steady rfl
  have passes : overloaded.Passes := Store.passes_overload
  have failed : brokenOff.1 = .error (.injected 503 "ServiceUnavailable" "b") := by
    decide +kernel
  have succeeded : (brokenOff.2.runAmid [] (mergeAll bareConfigMaps).run).1 = .ok () := by
    decide +kernel
  have final : Repeated (mergeAll bareConfigMaps) brokenOff.2 (.ok ()) after := by
    rw [← succeeded]
    exact .last Store.Storm.passes_nil fun failure isError => nomatch succeeded.symm.trans isError
  have repeated : Repeated (mergeAll bareConfigMaps) unlabelledWorld (.ok ()) after :=
    .again passes failed rfl final
  have wrote : (brokenOff.2.runAmid [] (mergeAll bareConfigMaps).run).2.writesSince
      unlabelledWorld .configMap = [⟨.replace, ⟨"", "a"⟩⟩, ⟨.create, ⟨"", "b"⟩⟩] := by
    decide +kernel
  obtain ⟨once, untouched, reads⟩ := mergeAll_repeated apart steady repeated
  have foreign := untouched ⟨"", "c"⟩ (.inl (by decide))
  exact ⟨⟨apart, steady, repeated⟩, wrote, once, foreign.2, reads overloaded passes⟩

end Request

end GuestFleet
