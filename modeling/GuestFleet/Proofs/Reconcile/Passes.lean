import GuestFleet.Proofs.Reconcile.Tries
import GuestFleet.Reconcile.Pass
import GuestFleet.Resource.Bundle

/-!
# Passes phase by phase

A handler is as good as its phases: a condition for each point between two phases, and a
proof for each phase that a try of it leads from one point to the next. Retrying and
counting the phases needs no proof of its own.
-/

namespace GuestFleet

open Kube (Object)

variable {σ : Type} {around : Surroundings σ}

/-! ## Handlers -/

namespace Work

variable {rest before after : Context -> σ -> Prop} {context : Context} {state : σ}

/-- A phase, and what follows it unless the pass is told to stop. -/
theorem reaches_bind {work : Work Program α} {between : α -> Context -> σ -> Prop}
    {next : α -> Work Program Unit} (leads : work.Leads around rest before between)
    (following : ∀ value context state, context.cancelled = false ->
      between value context state -> (next value).Reaches around rest after context state)
    (going : context.cancelled = false) (holds : before context state) :
    Work.Reaches around rest (work >>= fun value => Resource.unlessCancelled (next value)) after
      context state := by
  refine ends_bind.2 (Work.Ends.mono (leads context state going holds) ?_ ?_)
  · intro value context state landed
    refine ends_bind.2 (ends_isCancelled.2 ?_)
    cases cancelled : context.cancelled with
    | true => exact ends_pure.2 ((landed_rest cancelled).2 ((landed_rest cancelled).1 landed))
    | false =>
      exact following value context state cancelled ((landed_onward cancelled).1 landed)
  · rintro failure context state ⟨resting, -⟩
    exact resting

end Work

namespace Resource

variable {rest : Context -> σ -> Prop}

/-- A difference that is empty is passed over, and another one is applied. -/
theorem leads_applying {resource : Resource Program} {before after : Context -> σ -> Prop}
    {phase : Phase} {apply : List (Object resource.kind) -> Work Program Unit}
    {objects : List (Object resource.kind)}
    (nothing : objects = [] -> ∀ context state, before context state -> after context state)
    (something : objects ≠ [] -> (apply objects).Leads around rest before fun _ => after) :
    (resource.applying phase apply objects).Leads around rest before fun _ => after := by
  unfold applying
  cases objects with
  | nil => exact Work.leads_pure fun context state _ holds => nothing rfl context state holds
  | cons head others => exact (something (List.cons_ne_nil head others)).inPhase _ _

/-- The conditions between the phases of taking objects down, and the phases that lead from
one to the next. -/
structure Removes (around : Surroundings σ) (rest : Context -> σ -> Prop)
    (resource : Resource Program) (before : Context -> σ -> Prop)
    (read : List (Object resource.kind) -> Context -> σ -> Prop)
    (wanted : List (Object resource.kind) -> List (Object resource.kind) -> Context -> σ -> Prop)
    (chosen : ChangeSet resource.kind -> Context -> σ -> Prop)
    (after : Context -> σ -> Prop) : Prop where
  reads : resource.currentState.Leads around rest before read
  desires : ∀ current, resource.desiredState.Leads around rest (read current) (wanted current)
  patches : ∀ current desired,
    (resource.deletePatch current desired).Leads around rest (wanted current desired) chosen
  deletesNothing : ∀ change context state, change.delete = [] -> chosen change context state ->
    after context state
  deletes : ∀ change, change.delete ≠ [] ->
    (resource.applyDelete change.delete).Leads around rest (chosen change) fun _ => after

/-- The conditions between the phases of bringing objects about, and the phases that lead
from one to the next. -/
structure Provides (around : Surroundings σ) (rest : Context -> σ -> Prop)
    (resource : Resource Program) (before : Context -> σ -> Prop)
    (read : List (Object resource.kind) -> Context -> σ -> Prop)
    (wanted : List (Object resource.kind) -> List (Object resource.kind) -> Context -> σ -> Prop)
    (chosen created deleted : ChangeSet resource.kind -> Context -> σ -> Prop)
    (after : Context -> σ -> Prop) : Prop where
  reads : resource.currentState.Leads around rest before read
  desires : ∀ current, resource.desiredState.Leads around rest (read current) (wanted current)
  patches : ∀ current desired,
    (resource.updatePatch current desired).Leads around rest (wanted current desired) chosen
  createsNothing : ∀ change context state, change.create = [] -> chosen change context state ->
    created change context state
  creates : ∀ change, change.create ≠ [] ->
    (resource.applyCreate change.create).Leads around rest (chosen change)
      fun _ => created change
  deletesNothing : ∀ change context state, change.delete = [] -> created change context state ->
    deleted change context state
  deletes : ∀ change, change.delete ≠ [] ->
    (resource.applyDelete change.delete).Leads around rest (created change)
      fun _ => deleted change
  updatesNothing : ∀ change context state, change.update = [] -> deleted change context state ->
    after context state
  updates : ∀ change, change.update ≠ [] ->
    (resource.applyUpdate change.update).Leads around rest (deleted change) fun _ => after

section

variable {resource : Resource Program} {before after : Context -> σ -> Prop}
  {read : List (Object resource.kind) -> Context -> σ -> Prop}
  {wanted : List (Object resource.kind) -> List (Object resource.kind) -> Context -> σ -> Prop}
  {chosen created deleted : ChangeSet resource.kind -> Context -> σ -> Prop}
  {context : Context} {state : σ}

/-- Reading, computing and comparing, and then what is done about the difference. -/
theorem withPatch_reaches {phase : Phase}
    {patch : List (Object resource.kind) -> List (Object resource.kind) ->
      Work Program (ChangeSet resource.kind)}
    {next : ChangeSet resource.kind -> Work Program Unit}
    (reads : resource.currentState.Leads around rest before read)
    (desires : ∀ current,
      resource.desiredState.Leads around rest (read current) (wanted current))
    (patches : ∀ current desired,
      (patch current desired).Leads around rest (wanted current desired) chosen)
    (following : ∀ change context state, context.cancelled = false ->
      chosen change context state -> (next change).Reaches around rest after context state)
    (going : context.cancelled = false) (holds : before context state) :
    (resource.withPatch phase patch next).Reaches around rest after context state := by
  refine Work.reaches_bind (reads.inPhase _ _) ?_ going holds
  intro current context state going holds
  refine Work.reaches_bind ((desires current).inPhase _ _) ?_ going holds
  intro desired context state going holds
  exact Work.reaches_bind ((patches current desired).inPhase _ _) following going holds

/-- A resource that removes its objects is rid of them unless it fails or stops the pass. -/
theorem Removes.ensureDeleted
    (removes : resource.Removes around rest before read wanted chosen after)
    (going : context.cancelled = false) (holds : before context state) :
    resource.ensureDeleted.Reaches around rest after context state := by
  refine withPatch_reaches removes.reads removes.desires removes.patches ?_ going holds
  intro change context state going holds
  refine Work.Leads.reaches (leads_applying ?_ (removes.deletes change)) going holds
  intro nothing context state holds
  exact removes.deletesNothing change context state nothing holds

/-- A resource that provides its objects has them unless it fails or stops the pass. -/
theorem Provides.ensureCreated
    (provides : resource.Provides around rest before read wanted chosen created deleted after)
    (going : context.cancelled = false) (holds : before context state) :
    resource.ensureCreated.Reaches around rest after context state := by
  refine withPatch_reaches provides.reads provides.desires provides.patches ?_ going holds
  intro change context state going holds
  refine Work.reaches_bind (leads_applying (fun nothing context state holds =>
    provides.createsNothing change context state nothing holds) (provides.creates change))
    ?_ going holds
  rintro - context state going holds
  refine Work.reaches_bind (leads_applying (fun nothing context state holds =>
    provides.deletesNothing change context state nothing holds) (provides.deletes change))
    ?_ going holds
  rintro - context state going holds
  refine Work.Leads.reaches (leads_applying (fun nothing context state holds =>
    provides.updatesNothing change context state nothing holds) (provides.updates change))
    going holds

/-- Retrying and counting the phases leads through the same conditions. -/
theorem Removes.wrapped
    (removes : resource.Removes around rest before read wanted chosen after)
    (policy : RetryPolicy) (scope : String) :
    ((resource.retried policy scope).metered scope).Removes around rest before read wanted
      chosen after where
  reads := ((removes.reads.retry _ _ _).observing _ _).noting _ _
  desires current := ((removes.desires current).retry _ _ _).observing _ _
  patches current desired := ((removes.patches current desired).retry _ _ _).observing _ _
  deletesNothing := removes.deletesNothing
  deletes change some := Work.Leads.timing ((removes.deletes change some).retry _ _ _) _ _ _ _

/-- Retrying and counting the phases leads through the same conditions here, too. -/
theorem Provides.wrapped
    (provides : resource.Provides around rest before read wanted chosen created deleted after)
    (policy : RetryPolicy) (scope : String) :
    ((resource.retried policy scope).metered scope).Provides around rest before read wanted
      chosen created deleted after where
  reads := ((provides.reads.retry _ _ _).observing _ _).noting _ _
  desires current := ((provides.desires current).retry _ _ _).observing _ _
  patches current desired := ((provides.patches current desired).retry _ _ _).observing _ _
  createsNothing := provides.createsNothing
  creates change some := Work.Leads.timing ((provides.creates change some).retry _ _ _) _ _ _ _
  deletesNothing := provides.deletesNothing
  deletes change some := Work.Leads.timing ((provides.deletes change some).retry _ _ _) _ _ _ _
  updatesNothing := provides.updatesNothing
  updates change some := Work.Leads.timing ((provides.updates change some).retry _ _ _) _ _ _ _

variable (resource) in
/-- A handler that is told to stop while the current objects are read does nothing else, and its
failures are those of reading them. -/
theorem ensureCreated_stops {stopped : σ -> Prop} {failed : Context -> σ -> Prop}
    (reads : resource.currentState.Tries around before
      (fun _ context state => context.cancelled = true ∧ stopped state) failed)
    (holds : before context state) :
    resource.ensureCreated.Ends around context state
      (fun _ context state => context.cancelled = true ∧ stopped state)
      fun failure context state => failed context state ∧
        ∃ cause, failure = .inPhase resource.name .currentState cause := by
  refine Work.ends_bind.2 (Work.ends_inPhase.2 (Work.Ends.mono (reads context state holds) ?_ ?_))
  · rintro current context state ⟨cancelled, atStop⟩
    refine Work.ends_bind.2 (Work.ends_isCancelled.2 ?_)
    rw [cancelled]
    exact Work.ends_pure.2 ⟨cancelled, atStop⟩
  · rintro failure context state ⟨hasFailed, -⟩
    exact ⟨hasFailed, failure, rfl⟩

end

end Resource

/-! ## Passes -/

namespace Pass

variable {rest : Context -> σ -> Prop}

/-- What a completed pass has reached, and what any other end of a pass leaves. -/
def Ended (rest after : Context -> σ -> Prop) (outcome : Outcome) (state : σ) : Prop :=
  match outcome with
  | .completed => ∃ context, after context state
  | .cancelled _ => ∃ context, context.cancelled = true ∧ rest context state

/-- Handlers one after the other, each leading from what holds before it to what holds
before the next. `reached` is said of the handlers that are done. -/
theorem steps_ends {event : Event} {handlers : List (Handler Program)}
    (reached : List (Handler Program) -> Context -> σ -> Prop)
    (handles : ∀ done handler later, handlers = done ++ handler :: later ->
      ∀ context state, context.cancelled = false -> reached done context state ->
        (handle event handler).Reaches around rest (reached (done ++ [handler])) context state)
    {context : Context} {state : σ} (going : context.cancelled = false)
    (holds : reached [] context state) :
    (steps event handlers).Ends around context state
      (fun outcome context state =>
        match outcome with
        | .completed => reached handlers context state
        | .cancelled _ => context.cancelled = true ∧ rest context state)
      fun _ => rest := by
  induction handlers generalizing reached context state with
  | nil => exact Work.ends_pure.2 holds
  | cons handler handlers ih =>
    refine Work.ends_bind.2 (Work.Ends.mono
      (handles [] handler handlers rfl context state going holds) ?_ fun _ _ _ failed => failed)
    rintro - context state landed
    refine Work.ends_bind.2 (Work.ends_isCancelled.2 ?_)
    cases cancelled : context.cancelled with
    | true => exact Work.ends_pure.2 ⟨cancelled, (landed_rest cancelled).1 landed⟩
    | false =>
      refine ih (fun done => reached (handler :: done)) ?_ cancelled
        ((landed_onward cancelled).1 landed)
      intro done next later split context state going holds
      exact handles (handler :: done) next later (congrArg (handler :: ·) split) context state
        going holds

/-- A pass from a new context. -/
theorem run_ends {event : Event} {handlers : List (Handler Program)}
    (reached : List (Handler Program) -> Context -> σ -> Prop)
    (handles : ∀ done handler later, handlers = done ++ handler :: later ->
      ∀ context state, context.cancelled = false -> reached done context state ->
        (handle event handler).Reaches around rest (reached (done ++ [handler])) context state)
    {state : σ} (holds : reached [] { event := event } state) :
    Request.Ends around (run event handlers) state (Ended rest (reached handlers))
      fun _ state => ∃ context, rest context state := by
  refine (Program.ends_bind _).2 (Program.Ends.mono (steps_ends reached handles rfl holds) ?_)
  rintro ⟨result, context⟩ state ended
  cases result with
  | ok outcome =>
    cases outcome with
    | completed => exact ⟨context, ended⟩
    | cancelled resource => exact ⟨context, ended⟩
  | error failure => exact ⟨context, ended⟩

/-- A pass whose handlers are made of items, with `reached` said of the items. -/
theorem run_ends_map {event : Event} {items : List ι} {handler : ι -> Handler Program}
    (reached : List ι -> Context -> σ -> Prop)
    (handles : ∀ done item later, items = done ++ item :: later ->
      ∀ context state, context.cancelled = false -> reached done context state ->
        (handle event (handler item)).Reaches around rest (reached (done ++ [item])) context state)
    {state : σ} (holds : reached [] { event := event } state) :
    Request.Ends around (run event (items.map handler)) state (Ended rest (reached items))
      fun _ state => ∃ context, rest context state := by
  have ends : Request.Ends around (run event (items.map handler)) state
      (Ended rest (reached (items.take (items.map handler).length)))
      fun _ state => ∃ context, rest context state := by
    refine run_ends (fun done => reached (items.take done.length)) ?_ holds
    intro done next later split context state going holds
    obtain ⟨early, late, rfl, rfl, made⟩ := List.map_eq_append_iff.1 split
    obtain ⟨item, others, rfl, rfl, -⟩ := List.map_eq_cons_iff.1 made
    have before : (early ++ item :: others).take (early.map handler).length = early := by simp
    have after : (early ++ item :: others).take (early.map handler ++ [handler item]).length =
        early ++ [item] := by
      simp [List.take_append, List.take_of_length_le]
    rw [before] at holds
    rw [after]
    exact handles early item others rfl context state going holds
  simpa using ends

/-- A pass that is told to stop by its first handler. -/
theorem run_stops {event : Event} {handler : Handler Program} {handlers : List (Handler Program)}
    {stopped : σ -> Prop} {failed : Failure -> Context -> σ -> Prop} {state : σ}
    (handles : (handle event handler).Ends around { event := event } state
      (fun _ context state => context.cancelled = true ∧ stopped state) failed) :
    Request.Ends around (run event (handler :: handlers)) state
      (fun outcome state => outcome = .cancelled handler.name ∧ stopped state)
      fun failure state => ∃ context, failed failure context state := by
  have stops : (steps event (handler :: handlers)).Ends around { event := event } state
      (fun outcome _ state => outcome = .cancelled handler.name ∧ stopped state) failed := by
    refine Work.ends_bind.2 (Work.Ends.mono handles ?_ fun _ _ _ failed => failed)
    rintro - context state ⟨cancelled, atStop⟩
    refine Work.ends_bind.2 (Work.ends_isCancelled.2 ?_)
    rw [cancelled]
    exact Work.ends_pure.2 ⟨rfl, atStop⟩
  refine (Program.ends_bind _).2 (Program.Ends.mono stops ?_)
  rintro ⟨result, context⟩ state ended
  cases result with
  | ok outcome => exact ended
  | error failure => exact ⟨context, ended⟩

/-- A pass of one handler. -/
theorem run_single {event : Event} {handler : Handler Program} {after : Context -> σ -> Prop}
    {state : σ}
    (handles : (handle event handler).Reaches around rest after { event := event } state) :
    Request.Ends around (run event [handler]) state (Ended rest after)
      fun _ state => ∃ context, rest context state := by
  refine run_ends (fun done context current =>
    if done.isEmpty then context = { event := event } ∧ current = state
    else after context current) ?_ ⟨rfl, rfl⟩
  rintro (_ | ⟨first, done⟩) next later split context current going holds
  · obtain ⟨rfl, rfl⟩ := holds
    obtain ⟨rfl, -⟩ := List.cons.inj split
    exact handles
  · simp at split

end Pass

end GuestFleet
