import GuestFleet.Proofs.Reconcile.Passes
import GuestFleet.Proofs.Store.Guards

/-!
# Resources that keep an invariant

A resource keeps an invariant when each of its phases does, given that the objects it reads
are ones it may take down and the objects it wants are ones it may write. A pass keeps what
all of its resources keep, however it ends.
-/

namespace GuestFleet

open Kube (Object)

variable {σ : Type} {around : Surroundings σ} {Inv : σ -> Prop}

/-! ## Parts of a pass -/

/-- Every run of a part of a pass keeps the invariant, and a value is as demanded. -/
def Work.Keeps (around : Surroundings σ) (Inv : σ -> Prop) (work : Work Program α)
    (post : α -> Prop) : Prop :=
  work.Leads around (fun _ => Inv) (fun _ => Inv) fun value _ state => Inv state ∧ post value

namespace Work

/-- A part that is a request keeps what the request keeps. -/
theorem keeps_ofRequest {request : Request α} {post : α -> Prop}
    (keeps : request.Keeps around Inv post) : (Work.ofRequest request).Keeps around Inv post :=
  leads_ofRequest fun _ _ => keeps.leads

/-- A value keeps everything. -/
theorem keeps_pure {value : α} {post : α -> Prop} (holds : post value) :
    (pure value : Work Program α).Keeps around Inv post :=
  leads_pure fun _ _ _ kept => ⟨kept, holds⟩

/-- So does a failure that cannot pass. -/
theorem keeps_throw {failure : Failure} {post : α -> Prop} (final : failure.isRetryable = false) :
    (throw failure : Work Program α).Keeps around Inv post :=
  leads_throw final fun _ _ kept => kept

/-- A part that the next one follows must not tell the pass to stop. -/
theorem keeps_request_bind {request : Request α} {between : α -> Prop}
    {following : α -> Work Program β} {post : β -> Prop} (first : request.Keeps around Inv between)
    (next : ∀ value, between value -> (following value).Keeps around Inv post) :
    (Work.ofRequest request >>= following).Keeps around Inv post := by
  intro context state going kept
  refine ends_bind.2 (ends_ofRequest.2 (Request.Ends.mono (first state kept) ?_ ?_))
  · rintro value state ⟨kept, holds⟩
    exact next value holds context state going kept
  · intro failure state kept
    exact ⟨kept, fun _ => ⟨going, kept⟩⟩

end Work

/-! ## Resources -/

namespace Resource

/-- Every phase of a resource keeps the invariant. What is read is `mine`, what is written
is `wanted`, and a difference takes its objects from these. -/
structure Keeps (around : Surroundings σ) (Inv : σ -> Prop) (resource : Resource Program)
    (mine wanted : Object resource.kind -> Prop) : Prop where
  reads : resource.currentState.Keeps around Inv fun objects => ∀ object ∈ objects, mine object
  desires : resource.desiredState.Keeps around Inv fun objects => ∀ object ∈ objects, wanted object
  compares : ∀ current desired, (resource.updatePatch current desired).Keeps around Inv
    fun change => change.create ⊆ desired ∧ change.delete ⊆ current ∧ change.update ⊆ desired
  picks : ∀ current desired, (resource.deletePatch current desired).Keeps around Inv
    fun change => change.delete ⊆ current
  creates : ∀ objects, (∀ object ∈ objects, wanted object) ->
    (resource.applyCreate objects).Keeps around Inv fun _ => True
  deletes : ∀ objects, (∀ object ∈ objects, mine object) ->
    (resource.applyDelete objects).Keeps around Inv fun _ => True
  updates : ∀ objects, (∀ object ∈ objects, wanted object) ->
    (resource.applyUpdate objects).Keeps around Inv fun _ => True

section

variable {resource : Resource Program} {mine wanted : Object resource.kind -> Prop}

/-- A phase that is begun under a condition on what was computed before. -/
theorem leads_of_keeps {work : Work Program α} {post : α -> Prop} {condition : Prop}
    {after : α -> Context -> σ -> Prop}
    (keeps : condition -> work.Keeps around Inv post)
    (reaches : condition -> ∀ value context state, Inv state -> post value ->
      after value context state) :
    work.Leads around (fun _ => Inv) (fun _ state => Inv state ∧ condition) after := by
  rintro context state going ⟨kept, holds⟩
  refine Work.Ends.mono (keeps holds context state going kept) ?_ ?_
  · rintro value context state landed
    refine landed.mono ?_
    rintro ⟨kept, post⟩
    exact reaches holds value context state kept post
  · rintro failure context state ⟨kept, again⟩
    refine ⟨kept, fun retryable => ?_⟩
    obtain ⟨going, kept⟩ := again retryable
    exact ⟨going, kept, holds⟩

/-- What a resource keeps it keeps while it provides its objects. -/
theorem Keeps.provides (keeps : resource.Keeps around Inv mine wanted) :
    resource.Provides around (fun _ => Inv) (fun _ => Inv)
      (fun current _ state => Inv state ∧ ∀ object ∈ current, mine object)
      (fun current desired _ state =>
        Inv state ∧ (∀ object ∈ current, mine object) ∧ ∀ object ∈ desired, wanted object)
      (fun change _ state =>
        Inv state ∧ (∀ object ∈ change.create, wanted object) ∧
          (∀ object ∈ change.delete, mine object) ∧ ∀ object ∈ change.update, wanted object)
      (fun change _ state =>
        Inv state ∧ (∀ object ∈ change.delete, mine object) ∧
          ∀ object ∈ change.update, wanted object)
      (fun change _ state => Inv state ∧ ∀ object ∈ change.update, wanted object)
      fun _ => Inv where
  reads := keeps.reads
  desires current := by
    refine leads_of_keeps (fun _ => keeps.desires) ?_
    intro mine desired context state kept wanted
    exact ⟨kept, mine, wanted⟩
  patches current desired := by
    refine leads_of_keeps (fun _ => keeps.compares current desired) ?_
    rintro ⟨mine, wanted⟩ change context state kept ⟨create, delete, update⟩
    exact ⟨kept, fun object mem => wanted object (create mem),
      fun object mem => mine object (delete mem), fun object mem => wanted object (update mem)⟩
  createsNothing := fun _ _ _ _ ⟨kept, _, mine, wanted⟩ => ⟨kept, mine, wanted⟩
  creates change _ := by
    refine leads_of_keeps (fun holds => keeps.creates change.create holds.1) ?_
    rintro ⟨-, mine, wanted⟩ _ context state kept -
    exact ⟨kept, mine, wanted⟩
  deletesNothing := fun _ _ _ _ ⟨kept, _, wanted⟩ => ⟨kept, wanted⟩
  deletes change _ := by
    refine leads_of_keeps (fun holds => keeps.deletes change.delete holds.1) ?_
    rintro ⟨-, wanted⟩ _ context state kept -
    exact ⟨kept, wanted⟩
  updatesNothing := fun _ _ _ _ ⟨kept, _⟩ => kept
  updates change _ :=
    leads_of_keeps (keeps.updates change.update) fun _ _ _ _ kept _ => kept

/-- And it keeps it while it removes them. -/
theorem Keeps.removes (keeps : resource.Keeps around Inv mine wanted) :
    resource.Removes around (fun _ => Inv) (fun _ => Inv)
      (fun current _ state => Inv state ∧ ∀ object ∈ current, mine object)
      (fun current _ _ state => Inv state ∧ ∀ object ∈ current, mine object)
      (fun change _ state => Inv state ∧ ∀ object ∈ change.delete, mine object)
      fun _ => Inv where
  reads := keeps.reads
  desires current :=
    leads_of_keeps (fun _ => keeps.desires) fun mine _ _ _ kept _ => ⟨kept, mine⟩
  patches current desired := by
    refine leads_of_keeps (fun _ => keeps.picks current desired) ?_
    intro mine change context state kept delete
    exact ⟨kept, fun object mem => mine object (delete mem)⟩
  deletesNothing := fun _ _ _ _ ⟨kept, _⟩ => kept
  deletes change _ :=
    leads_of_keeps (keeps.deletes change.delete) fun _ _ _ _ kept _ => kept

/-- A pass over the resource keeps the invariant, retried and metered as it is. -/
theorem Keeps.handles (keeps : resource.Keeps around Inv mine wanted) (policy : RetryPolicy)
    (scope : String) (event : Event) {context : Context} {state : σ}
    (going : context.cancelled = false) (kept : Inv state) :
    (Pass.handle event (wrapped policy scope resource)).Reaches around (fun _ => Inv)
      (fun _ => Inv) context state := by
  cases event with
  | apply => exact (keeps.provides.wrapped policy scope).ensureCreated going kept
  | delete => exact (keeps.removes.wrapped policy scope).ensureDeleted going kept

end

end Resource

/-- A pass keeps what each of its handlers keeps. -/
theorem Pass.run_keeps {event : Event} {handlers : List (Handler Program)}
    (handles : ∀ handler ∈ handlers, ∀ context state, context.cancelled = false -> Inv state ->
      (handle event handler).Reaches around (fun _ => Inv) (fun _ => Inv) context state) :
    Request.Keeps around Inv (run event handlers) fun _ => True := by
  intro state kept
  have each : ∀ done handler later, handlers = done ++ handler :: later ->
      ∀ context state, context.cancelled = false -> Inv state ->
        (handle event handler).Reaches around (fun _ => Inv) (fun _ => Inv) context state := by
    intro done handler later split
    refine handles handler ?_
    rw [split]
    exact List.mem_append_right done List.mem_cons_self
  refine Request.Ends.mono (run_ends (fun _ _ => Inv) each kept) ?_ ?_
  · intro outcome state ended
    cases outcome with
    | completed =>
      obtain ⟨_, kept⟩ := ended
      exact ⟨kept, trivial⟩
    | cancelled resource =>
      obtain ⟨_, -, kept⟩ := ended
      exact ⟨kept, trivial⟩
  · rintro failure state ⟨_, kept⟩
    exact kept

end GuestFleet
