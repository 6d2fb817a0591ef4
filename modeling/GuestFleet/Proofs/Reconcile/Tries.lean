import GuestFleet.Proofs.Program.Ends
import GuestFleet.Reconcile.Metered
import GuestFleet.Reconcile.Retried

/-!
# Tries

What a single try of a phase achieves, said so that it can be said of the retried phase
too: a failure that may pass has to leave things as they were before the try. Counting
and timing a phase adds nothing to this.
-/

namespace GuestFleet

variable {σ : Type} {around : Surroundings σ}

/-- Where a part of a pass leaves things that did not fail: at rest if the pass was told to
stop, and otherwise such that it can go on. -/
def Landed (rest onward : Context -> σ -> Prop) (context : Context) (state : σ) : Prop :=
  if context.cancelled then rest context state else onward context state

/-- A part that did not stop the pass has led on. -/
theorem landed_onward {rest onward : Context -> σ -> Prop} {context : Context} {state : σ}
    (going : context.cancelled = false) :
    Landed rest onward context state <-> onward context state := by
  unfold Landed
  rw [going]
  exact Iff.rfl

/-- A part that stopped the pass has left things at rest. -/
theorem landed_rest {rest onward : Context -> σ -> Prop} {context : Context} {state : σ}
    (stopped : context.cancelled = true) :
    Landed rest onward context state <-> rest context state := by
  unfold Landed
  rw [stopped]
  exact Iff.rfl

/-- What is led on to may be weakened. -/
theorem Landed.mono {rest onward weaker : Context -> σ -> Prop} {context : Context} {state : σ}
    (landed : Landed rest onward context state)
    (weaken : onward context state -> weaker context state) :
    Landed rest weaker context state := by
  cases cancelled : context.cancelled with
  | true => exact (landed_rest cancelled).2 ((landed_rest cancelled).1 landed)
  | false => exact (landed_onward cancelled).2 (weaken ((landed_onward cancelled).1 landed))

/-- Two ways to see where a part leads hold together. -/
theorem Landed.both {rest onward restOther onwardOther : Context -> σ -> Prop} {context : Context}
    {state : σ} (landed : Landed rest onward context state)
    (landedOther : Landed restOther onwardOther context state) :
    Landed (fun context state => rest context state ∧ restOther context state)
      (fun context state => onward context state ∧ onwardOther context state) context state := by
  cases cancelled : context.cancelled with
  | true =>
    have resting := (landed_rest cancelled).1 landed
    exact (landed_rest cancelled).2 ⟨resting, (landed_rest cancelled).1 landedOther⟩
  | false =>
    have going := (landed_onward cancelled).1 landed
    exact (landed_onward cancelled).2 ⟨going, (landed_onward cancelled).1 landedOther⟩

/-- A try of a request leads from one condition to another. When it fails things are at
rest, and if the failure may pass the first condition still holds. -/
def Request.Leads (around : Surroundings σ) (rest before : σ -> Prop) (request : Request α)
    (after : α -> σ -> Prop) : Prop :=
  ∀ state, before state ->
    request.Ends around state after fun failure state =>
      rest state ∧ (failure.isRetryable = true -> before state)

/-- A try of a part of a pass from a condition ends well as demanded, or fails as demanded. If
the failure may pass the condition still holds. -/
def Work.Tries (around : Surroundings σ) (before : Context -> σ -> Prop) (work : Work Program α)
    (ok : α -> Context -> σ -> Prop) (failed : Context -> σ -> Prop) : Prop :=
  ∀ context state, before context state ->
    work.Ends around context state ok
      fun failure context state =>
        failed context state ∧ (failure.isRetryable = true -> before context state)

/-- A try of a part of a pass leads from one condition to another, unless it tells the pass
to stop. -/
def Work.Leads (around : Surroundings σ) (rest before : Context -> σ -> Prop)
    (work : Work Program α) (after : α -> Context -> σ -> Prop) : Prop :=
  ∀ context state, context.cancelled = false -> before context state ->
    work.Ends around context state
      (fun value => Landed rest (after value))
      fun failure context state =>
        rest context state ∧
          (failure.isRetryable = true -> context.cancelled = false ∧ before context state)

/-- A part of a pass reaches a condition, unless it fails or tells the pass to stop. -/
def Work.Reaches (around : Surroundings σ) (rest : Context -> σ -> Prop)
    (work : Work Program Unit) (after : Context -> σ -> Prop) (context : Context) (state : σ) :
    Prop :=
  work.Ends around context state (fun _ => Landed rest after) fun _ => rest

namespace Work

/-! ## Trying again -/

section

variable {before : Context -> σ -> Prop} {work : Work Program α}
  {ok : α -> Context -> σ -> Prop} {failed : Context -> σ -> Prop}

/-- Pausing and trying again ends as a single try does. The induction is on the tries that
are left; what carries it is that a passing failure restores the condition. -/
theorem Tries.tryAgain (tries : work.Tries around before ok failed) (policy : RetryPolicy)
    (resource scope : String) (left tried : Nat) :
    Work.Tries around before (policy.tryAgain resource scope work left tried) ok failed := by
  induction left generalizing tried with
  | zero => exact tries
  | succ left ih =>
    intro context state holds
    refine (Program.ends_bind _).2 (Program.Ends.mono (tries context state holds) ?_)
    rintro ⟨result, context⟩ state ended
    cases result with
    | ok value => exact ended
    | error failure =>
      obtain ⟨hasFailed, again⟩ := ended
      by_cases retryable : failure.isRetryable = true
      · simp only [retryable, if_true]
        intro reply later answered
        rw [around.pause_quiet answered]
        exact ih (tried + 1) context state (again retryable)
      · simp only [retryable]
        exact ⟨hasFailed, fun claimed => absurd claimed retryable⟩

/-- Retrying ends as a single try does. -/
theorem Tries.retry (tries : work.Tries around before ok failed) (policy : RetryPolicy)
    (resource scope : String) :
    Work.Tries around before (policy.retry resource scope work) ok failed :=
  tries.tryAgain policy resource scope policy.maxRetries 1

/-- Counting failures changes nothing about how a try ends. -/
theorem Tries.observing (tries : work.Tries around before ok failed) (kind : String)
    (phase : Phase) : (Resource.observing kind phase work).Tries around before ok failed := by
  intro context state holds
  refine (Program.ends_bind _).2 (Program.Ends.mono (tries context state holds) ?_)
  rintro ⟨result, context⟩ state ended
  cases result with
  | ok value => exact ended
  | error failure =>
    intro reply later answered
    rw [around.record_quiet answered]
    exact ended

/-- Nor does counting the objects that were read. -/
theorem Tries.noting {k : Kube.Kind} {work : Work Program (List (Kube.Object k))}
    {ok : List (Kube.Object k) -> Context -> σ -> Prop}
    (tries : work.Tries around before ok failed) (kind scope : String) :
    (work >>= Resource.noting kind scope).Tries around before ok failed := by
  intro context state holds
  refine ends_bind.2 (Work.Ends.mono (tries context state holds) ?_ fun _ _ _ failed => failed)
  intro objects context state reached reply later answered
  rw [around.record_quiet answered]
  exact reached

end

/-! ## Leading from one condition to another -/

/-- To lead on is to try, from where the pass was not told to stop. -/
theorem leads_iff {work : Work Program α} {rest before : Context -> σ -> Prop}
    {after : α -> Context -> σ -> Prop} :
    work.Leads around rest before after <->
      work.Tries around (fun context state => context.cancelled = false ∧ before context state)
        (fun value => Landed rest (after value)) rest := by
  constructor
  · rintro leads context state ⟨going, holds⟩
    exact leads context state going holds
  · intro tries context state going holds
    exact tries context state ⟨going, holds⟩

variable {rest before : Context -> σ -> Prop} {after : α -> Context -> σ -> Prop}

/-- A part that is a request leads where the request leads. -/
theorem leads_ofRequest {request : Request α}
    (leads : ∀ context, context.cancelled = false ->
      request.Leads around (rest context) (before context) fun value => after value context) :
    (Work.ofRequest request).Leads around rest before after := by
  intro context state going holds
  refine ends_ofRequest.2 (Request.Ends.mono (leads context going state holds) ?_ ?_)
  · intro value state reached
    exact (landed_onward going).2 reached
  · rintro failure state ⟨resting, again⟩
    exact ⟨resting, fun retryable => ⟨going, again retryable⟩⟩

/-- A value leads on to whatever holds already. -/
theorem leads_pure {value : α}
    (holds : ∀ context state, context.cancelled = false -> before context state ->
      after value context state) :
    (pure value : Work Program α).Leads around rest before after := by
  intro context state going condition
  exact ends_pure.2 ((landed_onward going).2 (holds context state going condition))

/-- A failure that cannot pass is final. -/
theorem leads_throw {failure : Failure} (final : failure.isRetryable = false)
    (resting : ∀ context state, before context state -> rest context state) :
    (throw failure : Work Program α).Leads around rest before after := by
  intro context state going condition
  refine ends_throw.2 ⟨resting context state condition, fun retryable => ?_⟩
  rw [final] at retryable
  exact absurd retryable Bool.false_ne_true

/-- What is led on to may be weakened. -/
theorem Leads.mono {work : Work Program α} {weaker : α -> Context -> σ -> Prop}
    (leads : work.Leads around rest before after)
    (weaken : ∀ value context state, after value context state -> weaker value context state) :
    work.Leads around rest before weaker := by
  intro context state going holds
  refine Work.Ends.mono (leads context state going holds) ?_ fun _ _ _ failed => failed
  intro value context state landed
  exact landed.mono (weaken value context state)

/-- From where the pass goes on a part reaches what it leads to. -/
theorem Leads.reaches {work : Work Program Unit} {onward : Context -> σ -> Prop}
    (leads : work.Leads around rest before fun _ => onward) {context : Context} {state : σ}
    (going : context.cancelled = false) (holds : before context state) :
    work.Reaches around rest onward context state := by
  refine Work.Ends.mono (leads context state going holds) (fun _ _ _ landed => landed) ?_
  rintro failure context state ⟨resting, -⟩
  exact resting

/-- What is reached may be weakened, at rest and onward. -/
theorem Reaches.mono {work : Work Program Unit}
    {weakerRest onward weaker : Context -> σ -> Prop} {context : Context} {state : σ}
    (reaches : work.Reaches around rest onward context state)
    (weakenRest : ∀ context state, rest context state -> weakerRest context state)
    (weaken : ∀ context state, onward context state -> weaker context state) :
    work.Reaches around weakerRest weaker context state := by
  refine Work.Ends.mono reaches ?_ fun _ => weakenRest
  intro _ context state landed
  cases cancelled : context.cancelled with
  | true =>
    have resting := (landed_rest cancelled).1 landed
    exact (landed_rest cancelled).2 (weakenRest context state resting)
  | false =>
    have going := (landed_onward cancelled).1 landed
    exact (landed_onward cancelled).2 (weaken context state going)

/-- What a part of a pass reaches in two regards it reaches in both. -/
theorem Reaches.both {work : Work Program Unit}
    {restOther onward onwardOther : Context -> σ -> Prop}
    {context : Context} {state : σ} (reaches : work.Reaches around rest onward context state)
    (reachesOther : work.Reaches around restOther onwardOther context state) :
    work.Reaches around (fun context state => rest context state ∧ restOther context state)
      (fun context state => onward context state ∧ onwardOther context state) context state := by
  refine Program.Ends.mono (Program.Ends.both reaches reachesOther) ?_
  rintro ⟨result, context⟩ state ⟨first, second⟩
  cases result with
  | error failure => exact ⟨first, second⟩
  | ok value => exact Landed.both first second

/-- To name the phase in a failure changes nothing about where it leads. -/
theorem Leads.inPhase {work : Work Program α} (leads : work.Leads around rest before after)
    (resource : String) (phase : Phase) :
    (Work.inPhase resource phase work).Leads around rest before after := by
  intro context state going holds
  exact ends_inPhase.2 (leads context state going holds)

/-- Pausing and trying again leads where a single try leads. -/
theorem Leads.retry {work : Work Program α} (leads : work.Leads around rest before after)
    (policy : RetryPolicy) (resource scope : String) :
    Work.Leads around rest before (policy.retry resource scope work) after :=
  leads_iff.2 ((leads_iff.1 leads).retry policy resource scope)

/-- Counting failures leads where the phase leads. -/
theorem Leads.observing {work : Work Program α} (leads : work.Leads around rest before after)
    (kind : String) (phase : Phase) :
    (Resource.observing kind phase work).Leads around rest before after :=
  leads_iff.2 ((leads_iff.1 leads).observing kind phase)

/-- So does timing, which is left out if there is nothing to apply. -/
theorem Leads.timing {k : Kube.Kind} {apply : List (Kube.Object k) -> Work Program Unit}
    {objects : List (Kube.Object k)} {onward : Context -> σ -> Prop}
    (leads : (apply objects).Leads around rest before fun _ => onward)
    (kind scope action : String) (phase : Phase) :
    (Resource.timing kind scope action phase apply objects).Leads around rest before
      fun _ => onward := by
  unfold Resource.timing
  by_cases none : objects.isEmpty = true
  · rw [if_pos none]
    exact leads
  · rw [if_neg none]
    intro context state going holds
    have observed := leads.observing kind phase context state going holds
    refine (Program.ends_bind _).2 (Program.Ends.mono observed ?_)
    rintro ⟨result, context⟩ state ended reply later answered
    rw [around.record_quiet answered]
    exact ended

/-- So does counting the objects that were read. -/
theorem Leads.noting {k : Kube.Kind} {work : Work Program (List (Kube.Object k))}
    {after : List (Kube.Object k) -> Context -> σ -> Prop}
    (leads : work.Leads around rest before after) (kind scope : String) :
    (work >>= Resource.noting kind scope).Leads around rest before after :=
  leads_iff.2 ((leads_iff.1 leads).noting kind scope)

end Work

end GuestFleet
