import GuestFleet.Reconcile.Context

/-!
# How programs end

What holds when a program has ended, said by the tree of its commands: whatever reply a
command may get, what follows that reply has to end well. The surroundings are a relation,
so that one and the same reasoning serves objects in memory and objects that others write
too. Requests and parts of a pass end in one of two ways, well or with a failure.
-/

namespace GuestFleet

/-- What answers the commands of programs: in a state a command may get a reply and leave
another state. The clock and the registry of metrics are no part of the state. -/
structure Surroundings (σ : Type) where
  answers : σ -> (command : Command) -> command.Reply -> σ -> Prop
  pause_quiet : ∀ {state span reply after},
    answers state (.pause span) reply after -> after = state
  record_quiet : ∀ {state event reply after},
    answers state (.record event) reply after -> after = state

variable {σ : Type} {around : Surroundings σ}

/-! ## Programs -/

namespace Program

/-- Every run of the program from a state ends with a result and a state as demanded. -/
def Ends (around : Surroundings σ) : Program α -> σ -> (α -> σ -> Prop) -> Prop
  | .done value, state, post => post value state
  | .step command next, state, post =>
    ∀ reply after, around.answers state command reply after ->
      Ends around (next reply) after post

/-- A weaker demand is met as well. -/
theorem Ends.mono {program : Program α} {state : σ} {post weaker : α -> σ -> Prop}
    (ends : program.Ends around state post)
    (weaken : ∀ value after, post value after -> weaker value after) :
    program.Ends around state weaker := by
  induction program generalizing state with
  | done value => exact weaken value state ends
  | step command next ih =>
    intro reply after answered
    exact ih reply (ends reply after answered)

/-- Two demands that are both met are met together. -/
theorem Ends.both {program : Program α} {state : σ} {post other : α -> σ -> Prop}
    (ends : program.Ends around state post) (endsOther : program.Ends around state other) :
    program.Ends around state fun value after => post value after ∧ other value after := by
  induction program generalizing state with
  | done value => exact ⟨ends, endsOther⟩
  | step command next ih =>
    intro reply after answered
    exact ih reply (ends reply after answered) (endsOther reply after answered)

/-- A sequence ends as its second part does from where the first has ended. -/
theorem ends_bind (program : Program α) {following : α -> Program β} {state : σ}
    {post : β -> σ -> Prop} :
    (program.bind following).Ends around state post <->
      program.Ends around state fun value after => (following value).Ends around after post := by
  induction program generalizing state with
  | done value => exact Iff.rfl
  | step command next ih =>
    constructor
    · intro ends reply after answered
      exact (ih reply).1 (ends reply after answered)
    · intro ends reply after answered
      exact (ih reply).2 (ends reply after answered)

end Program

/-- What a result that may be a failure has to be like. -/
def Either (ok : α -> σ -> Prop) (fail : Failure -> σ -> Prop) : Except Failure α -> σ -> Prop
  | .ok value => ok value
  | .error failure => fail failure

namespace Either

variable {ok : α -> σ -> Prop} {fail : Failure -> σ -> Prop} {result : Except Failure α} {state : σ}

/-- What follows from a good end and from a bad one holds either way. -/
theorem elim {post : Prop} (either : Either ok fail result state)
    (ofOk : ∀ value, ok value state -> post) (ofFail : ∀ failure, fail failure state -> post) :
    post := by
  cases result with
  | ok value => exact ofOk value either
  | error failure => exact ofFail failure either

/-- A result that cannot be a failure is a value. -/
theorem exists_ok (either : Either ok fail result state)
    (never : ∀ failure, ¬ fail failure state) : ∃ value, result = .ok value ∧ ok value state := by
  cases result with
  | ok value => exact ⟨value, rfl, either⟩
  | error failure => exact absurd either (never failure)

end Either

/-! ## Requests -/

namespace Request

/-- Every run of the request ends well with a value, or with a failure, as demanded. -/
def Ends (around : Surroundings σ) (request : Request α) (state : σ) (ok : α -> σ -> Prop)
    (fail : Failure -> σ -> Prop) : Prop :=
  Program.Ends around request.run state (Either ok fail)

section

variable {state : σ} {fail weakerFail : Failure -> σ -> Prop}

/-- Weaker demands are met as well. -/
theorem Ends.mono {request : Request α} {ok weaker : α -> σ -> Prop}
    (ends : request.Ends around state ok fail)
    (weaken : ∀ value after, ok value after -> weaker value after)
    (weakenFail : ∀ failure after, fail failure after -> weakerFail failure after) :
    request.Ends around state weaker weakerFail := by
  refine Program.Ends.mono ends fun result after holds => ?_
  cases result with
  | ok value => exact weaken value after holds
  | error failure => exact weakenFail failure after holds

/-- A value ends the request well, with the state as it was. -/
theorem ends_pure {value : α} {ok : α -> σ -> Prop} :
    (pure value : Request α).Ends around state ok fail <-> ok value state := Iff.rfl

/-- A failure ends it badly, with the state as it was. -/
theorem ends_throw {failure : Failure} {ok : α -> σ -> Prop} :
    (throw failure : Request α).Ends around state ok fail <-> fail failure state := Iff.rfl

/-- A sequence ends as its second part does, or fails as its first part does. -/
theorem ends_bind {request : Request α} {following : α -> Request β} {ok : β -> σ -> Prop} :
    (request >>= following).Ends around state ok fail <->
      request.Ends around state
        (fun value after => (following value).Ends around after ok fail) fail := by
  refine (Program.ends_bind request.run).trans ?_
  constructor
  · intro ends
    refine Program.Ends.mono ends fun result after holds => ?_
    cases result <;> exact holds
  · intro ends
    refine Program.Ends.mono ends fun result after holds => ?_
    cases result <;> exact holds

/-- The failure of an attempt is a value like others. -/
theorem ends_attempt {request : Request α} {ok : Except Failure α -> σ -> Prop} :
    request.attempt.Ends around state ok fail <->
      request.Ends around state (fun value => ok (.ok value))
        (fun failure => ok (.error failure)) := by
  refine (Program.ends_bind request.run).trans ?_
  constructor
  · intro ends
    refine Program.Ends.mono ends fun result after holds => ?_
    cases result <;> exact holds
  · intro ends
    refine Program.Ends.mono ends fun result after holds => ?_
    cases result <;> exact holds

end

end Request

/-! ## Parts of a pass -/

namespace Work

/-- Every run of the part from a context ends well, or with a failure, as demanded of the
value, the context and the state. -/
def Ends (around : Surroundings σ) (work : Work Program α) (context : Context) (state : σ)
    (ok : α -> Context -> σ -> Prop) (fail : Failure -> Context -> σ -> Prop) : Prop :=
  Program.Ends around (work.run.run context) state fun result =>
    Either (fun value => ok value result.2) (fun failure => fail failure result.2) result.1

section

variable {context : Context} {state : σ} {fail weakerFail : Failure -> Context -> σ -> Prop}

/-- Weaker demands are met as well. -/
theorem Ends.mono {work : Work Program α} {ok weaker : α -> Context -> σ -> Prop}
    (ends : work.Ends around context state ok fail)
    (weaken : ∀ value context after, ok value context after -> weaker value context after)
    (weakenFail : ∀ failure context after, fail failure context after ->
      weakerFail failure context after) :
    work.Ends around context state weaker weakerFail := by
  refine Program.Ends.mono ends fun result after holds => ?_
  obtain ⟨result, context⟩ := result
  cases result with
  | ok value => exact weaken value context after holds
  | error failure => exact weakenFail failure context after holds

/-- A value ends the part well, with context and state as they were. -/
theorem ends_pure {value : α} {ok : α -> Context -> σ -> Prop} :
    (pure value : Work Program α).Ends around context state ok fail <->
      ok value context state := Iff.rfl

/-- A failure ends it badly, with context and state as they were. -/
theorem ends_throw {failure : Failure} {ok : α -> Context -> σ -> Prop} :
    (throw failure : Work Program α).Ends around context state ok fail <->
      fail failure context state := Iff.rfl

/-- A sequence ends as its second part does, or fails as its first part does. -/
theorem ends_bind {work : Work Program α} {following : α -> Work Program β}
    {ok : β -> Context -> σ -> Prop} :
    (work >>= following).Ends around context state ok fail <->
      work.Ends around context state
        (fun value context after => (following value).Ends around context after ok fail)
        fail := by
  refine (Program.ends_bind (work.run.run context)).trans ?_
  constructor
  · intro ends
    refine Program.Ends.mono ends fun result after holds => ?_
    obtain ⟨result, context⟩ := result
    cases result <;> exact holds
  · intro ends
    refine Program.Ends.mono ends fun result after holds => ?_
    obtain ⟨result, context⟩ := result
    cases result <;> exact holds

/-- A request leaves the context alone. -/
theorem ends_ofRequest {request : Request α} {ok : α -> Context -> σ -> Prop} :
    (Work.ofRequest request).Ends around context state ok fail <->
      request.Ends around state (fun value => ok value context)
        (fun failure => fail failure context) := by
  refine (Program.ends_bind request.run).trans ?_
  exact Iff.rfl

/-- To ask for the context changes nothing. -/
theorem ends_getContext {ok : Context -> Context -> σ -> Prop} :
    (getThe Context : Work Program Context).Ends around context state ok fail <->
      ok context context state := Iff.rfl

/-- To replace the context leaves the state alone. -/
theorem ends_setContext {replacement : Context} {ok : Unit -> Context -> σ -> Prop} :
    (set replacement : Work Program Unit).Ends around context state ok fail <->
      ok () replacement state := Iff.rfl

/-- To change the context leaves the state alone. -/
theorem ends_modifyContext {change : Context -> Context} {ok : Unit -> Context -> σ -> Prop} :
    (modifyThe Context change : Work Program Unit).Ends around context state ok fail <->
      ok () (change context) state := Iff.rfl

/-- To ask whether the pass is to stop changes nothing. -/
theorem ends_isCancelled {ok : Bool -> Context -> σ -> Prop} :
    (Work.isCancelled : Work Program Bool).Ends around context state ok fail <->
      ok context.cancelled context state := Iff.rfl

/-- The name of a phase changes nothing but the failure. -/
theorem ends_inPhase {resource : String} {phase : Phase} {work : Work Program α}
    {ok : α -> Context -> σ -> Prop} :
    (Work.inPhase resource phase work).Ends around context state ok fail <->
      work.Ends around context state ok
        (fun failure => fail (.inPhase resource phase failure)) := by
  refine (Program.ends_bind (work.run.run context)).trans ?_
  constructor
  · intro ends
    refine Program.Ends.mono ends fun result after holds => ?_
    obtain ⟨result, context⟩ := result
    cases result <;> exact holds
  · intro ends
    refine Program.Ends.mono ends fun result after holds => ?_
    obtain ⟨result, context⟩ := result
    cases result <;> exact holds

end

end Work

end GuestFleet
