import GuestFleet.Proofs.Store.Requests

/-!
# Reading a collection

What a request reads is a function of the stored objects, as long as the failures to come
are such that may pass: the request yields that value or fails with one of them, and writes
nothing either way.
-/

namespace GuestFleet

namespace Store

open Kube (Kind Object)

/-- A request that met a failure that may pass is retried. -/
theorem Fault.Passes.isRetryable {fault : Fault} (passes : fault.Passes) (name : String) :
    (Failure.injected fault.code fault.reason name).isRetryable = true := by
  unfold Failure.injected Failure.isRetryable
  rcases passes with ⟨code, reason⟩ | code | code
  · simp [code, reason]
  · simp [code]
  · simp [code]

/-- A failure that may pass does not look like an object that is absent. -/
theorem Fault.Passes.not_absent {fault : Fault} (passes : fault.Passes) : fault.code ≠ 404 := by
  rcases passes with ⟨code, -⟩ | code | code
  · omega
  · omega
  · omega

/-- Nor does it look like an object that exists already. -/
theorem Fault.Passes.not_existing {fault : Fault} (passes : fault.Passes) :
    ¬ (fault.code = 409 ∧ fault.reason = "AlreadyExists") := by
  rintro ⟨conflict, found⟩
  rcases passes with ⟨-, reason⟩ | code | code
  · exact reason found
  · omega
  · omega

namespace Collection

variable {kind : Kind} {c d e : Collection kind}

/-- A sound collection whose failures to come may pass. -/
structure Steady (c : Collection kind) : Prop where
  sound : c.Sound
  passing : ∀ fault ∈ c.faults, fault.Passes

/-- Calls that wrote nothing lead from one collection to the other. -/
structure Unwritten (c d : Collection kind) : Prop where
  alike : c.Alike d
  faults : d.faults ⊆ c.faults
  calls : ∃ new, d.calls = new ++ c.calls ∧
    ∀ operation ∈ new, operation = .get ∨ operation = .list

/-- No calls write nothing. -/
theorem Unwritten.refl : c.Unwritten c := by
  refine ⟨Alike.refl, List.Subset.refl _, [], rfl, ?_⟩
  intro operation mem
  cases mem

/-- Calls that wrote nothing, one after the other, wrote nothing. -/
theorem Unwritten.trans (first : c.Unwritten d) (second : d.Unwritten e) : c.Unwritten e := by
  refine ⟨first.alike.trans second.alike, List.Subset.trans second.faults first.faults, ?_⟩
  · obtain ⟨early, earlyCalls, earlyReads⟩ := first.calls
    obtain ⟨late, lateCalls, lateReads⟩ := second.calls
    refine ⟨late ++ early, ?_, ?_⟩
    · rw [lateCalls, earlyCalls, List.append_assoc]
    · intro operation mem
      rcases List.mem_append.1 mem with mem | mem
      · exact lateReads operation mem
      · exact earlyReads operation mem

/-- A call that reads writes nothing. -/
theorem Unwritten.called {operation : Operation} (reads : operation = .get ∨ operation = .list) :
    c.Unwritten (c.called operation) := by
  refine ⟨alike_called, List.Subset.refl _, [operation], rfl, ?_⟩
  intro other mem
  rwa [List.mem_singleton.1 mem]

/-- What is like a steady collection, with no more failures to come, is steady. -/
theorem Steady.congr (steady : c.Steady) (alike : c.Alike d) (faults : d.faults ⊆ c.faults) :
    d.Steady :=
  ⟨alike.sound steady.sound, fun fault mem => steady.passing fault (faults mem)⟩

/-- What calls that wrote nothing leave of a steady collection is steady. -/
theorem Unwritten.steady (unwritten : c.Unwritten d) (steady : c.Steady) : d.Steady :=
  steady.congr unwritten.alike unwritten.faults

/-- What is steady is steady in a storm that may pass. -/
theorem Steady.amid {world : World} (steady : (world.collections.get kind).Steady) {storm : Storm}
    (passes : storm.Passes) : ((world.amid storm).collections.get kind).Steady := by
  rw [World.amid, World.get_awaiting]
  refine ⟨steady.sound.congr rfl rfl, fun fault mem => ?_⟩
  rcases List.mem_append.1 mem with mem | mem
  · exact steady.passing fault mem
  · exact passes fault mem

/-- Calls that wrote nothing wrote nothing, whatever may fail and was not awaited in the end. -/
theorem Unwritten.faced {world : World} {hazards : Kind -> List Fault}
    (unwritten : c.Unwritten ((world.awaiting hazards).collections.get kind))
    (faces : world.Faces hazards) : c.Unwritten (world.collections.get kind) := by
  have calls := unwritten.calls
  rw [World.get_awaiting] at calls
  exact ⟨unwritten.alike.trans (world.alike_awaiting hazards kind),
    List.Subset.trans (faces.fewer kind) unwritten.faults, calls⟩

/-- A sound collection without failures to come is steady. -/
theorem Sound.steady (sound : c.Sound) (unfailing : c.faults = []) : c.Steady := by
  refine ⟨sound, fun fault mem => ?_⟩
  rw [unfailing] at mem
  cases mem

end Collection

end Store

namespace Request

open Kube (Kind Object)
open Store (Collection View slotOf)

variable {kind : Kind} {c : Collection kind}

/-- The request yields the value, or fails with one of the failures to come, which may pass. -/
def Reads (c : Collection kind) (request : Request α) (value : α) : Prop :=
  request.Ends (View.collection kind).around c
    (fun result d => c.Unwritten d ∧ result = value)
    fun failure d => c.Unwritten d ∧ c.faults ≠ [] ∧ failure.isRetryable = true

/-- A request that only has a value reads it. -/
theorem reads_pure {value : α} : (pure value : Request α).Reads c value :=
  ends_pure.2 ⟨Collection.Unwritten.refl, rfl⟩

/-- A sequence of reads is a read. -/
theorem Reads.bind {request : Request α} {value : α} {following : α -> Request β} {result : β}
    (first : request.Reads c value)
    (next : ∀ d, c.Unwritten d -> (following value).Reads d result) :
    (request >>= following).Reads c result := by
  refine ends_bind.2 (Ends.mono first ?_ fun _ _ failed => failed)
  rintro found d ⟨unwritten, rfl⟩
  refine Ends.mono (next d unwritten) ?_ ?_
  · rintro result e ⟨later, same⟩
    exact ⟨unwritten.trans later, same⟩
  · rintro failure e ⟨later, some, retryable⟩
    refine ⟨unwritten.trans later, ?_, retryable⟩
    intro none
    exact some (List.subset_nil.1 (none ▸ unwritten.faults))

/-- Looking for an object reads what is stored in its slot. -/
theorem reads_getOptional (steady : c.Steady) (space : Option String) (name : String) :
    (getOptional kind space name).Reads c (c.stored (.make space name)) := by
  refine ends_getOptional ?_ ?_ ?_
  · intro object stored
    exact ⟨.called (.inl rfl), stored.symm⟩
  · intro absent
    exact ⟨.called (.inl rfl), absent.symm⟩
  · intro fault mem
    have passes := steady.passing fault mem
    rw [if_neg passes.not_absent]
    exact ⟨.called (.inl rfl), List.ne_nil_of_mem mem, passes.isRetryable name⟩

/-- Looking for several objects reads what is stored in their slots. -/
theorem reads_getExisting (steady : c.Steady) (space : Option String) (names : List String) :
    (getExisting kind space names).Reads c
      (names.filterMap fun name => c.stored (.make space name)) := by
  induction names generalizing c with
  | nil => exact reads_pure
  | cons name names ih =>
    refine (reads_getOptional steady space name).bind fun d unwritten => ?_
    refine (ih (unwritten.steady steady)).bind fun e later => ?_
    have same : (names.filterMap fun name => d.stored (.make space name)) =
        names.filterMap fun name => c.stored (.make space name) := by
      refine List.filterMap_congr fun name _ => ?_
      exact unwritten.alike.stored _
    rw [same, List.filterMap_cons]
    cases c.stored (.make space name) with
    | none => exact reads_pure
    | some object => exact reads_pure

/-- A list reads what is selected. -/
theorem reads_list (steady : c.Steady) (space : Option String) (selector : String) :
    (list kind space selector).Reads c (c.selected space selector) := by
  refine ends_list ⟨.called (.inr rfl), rfl⟩ fun fault mem => ?_
  exact ⟨.called (.inr rfl), List.ne_nil_of_mem mem,
    (steady.passing fault mem).isRetryable selector⟩

end Request

end GuestFleet
