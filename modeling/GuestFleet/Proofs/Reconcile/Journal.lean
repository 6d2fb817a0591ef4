import GuestFleet.Reconcile.Pass

/-!
# Journals of passes

A journal notes every phase that a pass begins: what the phase was given, what it answered, and
whether the pass was told to stop by then. Keeping a journal changes nothing. What is noted
follows an agenda, which has the phases of one resource after the other, up to the first phase
that fails or after which the pass is to stop.
-/

namespace GuestFleet

open Kube (Kind Object)

/-! ## Tasks -/

/-- A phase of a resource, with the objects that it is given. -/
inductive Task (kind : Kind) where
  | read
  | want
  /-- Finds what has to change, in one of the phases that do. -/
  | compare (phase : Phase) (current desired : List (Object kind))
  | apply (phase : Phase) (objects : List (Object kind))

namespace Task

variable {kind : Kind}

def phase : Task kind -> Phase
  | .read => .currentState
  | .want => .desiredState
  | .compare phase _ _ => phase
  | .apply phase _ => phase

/-- What the phase gives if it does not fail. -/
def Answer : Task kind -> Type
  | .read => List (Object kind)
  | .want => List (Object kind)
  | .compare _ _ _ => ChangeSet kind
  | .apply _ _ => Unit

end Task

namespace Journal

/-- A phase that is begun, of the resource in some place of a pass. -/
structure Call where
  place : Nat
  name : String
  kind : Kind
  task : Task kind

/-- A call of an agenda, with the answer that later calls are made from. -/
structure Step extends Call where
  answer : task.Answer

/-- A call that was made. -/
structure Entry extends Call where
  answer : Except Failure task.Answer
  /-- The pass was to stop when the phase had ended. -/
  cancelled : Bool

/-- The phase did not fail, and the pass goes on. -/
def Entry.Quiet (entry : Entry) : Prop := entry.answer.isOk = true ∧ entry.cancelled = false

/-- How a pass ends that has the entry last. -/
def Entry.ending (entry : Entry) : Except Failure Outcome :=
  match entry.answer with
  | .error cause => .error (.inPhase entry.name entry.task.phase cause)
  | .ok _ => if entry.cancelled then .ok (.cancelled entry.name) else .ok .completed

/-- The entry for a call that is answered as the agenda has it. -/
def Step.entry (step : Step) : Entry :=
  { step.toCall with answer := .ok step.answer, cancelled := false }

/-- What was noted follows an agenda: every entry has the next call, with its answer, and with
the first entry that is not quiet the rest of the agenda is dropped. -/
inductive Follows : List Step -> List Entry -> Except Failure Outcome -> Prop
  | done : Follows [] [] (.ok .completed)
  | answered (step : Step) (follows : Follows steps entries result) :
      Follows (step :: steps) (step.entry :: entries) result
  | stopped (step : Step) (steps : List Step) {entry : Entry} (call : entry.toCall = step.toCall)
      (unquiet : ¬ entry.Quiet) : Follows (step :: steps) [entry] entry.ending

/-! ## Keeping a journal -/

variable {σ : Type} {m : Type -> Type}

/-- A phase that is noted in a journal when it has ended. -/
def recorded (call : Call) (work : Work (StateM σ) call.task.Answer) :
    Work (StateM (σ × List Entry)) call.task.Answer :=
  ExceptT.mk fun context memory =>
    let ((answer, context), state) := (work.run.run context).run memory.1
    let entry : Entry := { call with answer := answer, cancelled := context.cancelled }
    ((answer, context), state, memory.2 ++ [entry])

end Journal

namespace Resource

open Journal

variable {σ : Type} {m : Type -> Type}

/-- The call of a phase of the resource. -/
def call (resource : Resource m) (place : Nat) (task : Task resource.kind) : Call :=
  ⟨place, resource.name, resource.kind, task⟩

/-- The resource with all of its phases noted in a journal. -/
def recorded (place : Nat) (resource : Resource (StateM σ)) :
    Resource (StateM (σ × List Entry)) where
  name := resource.name
  kind := resource.kind
  currentState := Journal.recorded (resource.call place .read) resource.currentState
  desiredState := Journal.recorded (resource.call place .want) resource.desiredState
  createPatch current desired :=
    Journal.recorded (resource.call place (.compare .createPatch current desired))
      (resource.createPatch current desired)
  updatePatch current desired :=
    Journal.recorded (resource.call place (.compare .updatePatch current desired))
      (resource.updatePatch current desired)
  deletePatch current desired :=
    Journal.recorded (resource.call place (.compare .deletePatch current desired))
      (resource.deletePatch current desired)
  applyCreate objects :=
    Journal.recorded (resource.call place (.apply .applyCreate objects))
      (resource.applyCreate objects)
  applyDelete objects :=
    Journal.recorded (resource.call place (.apply .applyDelete objects))
      (resource.applyDelete objects)
  applyUpdate objects :=
    Journal.recorded (resource.call place (.apply .applyUpdate objects))
      (resource.applyUpdate objects)

end Resource

namespace Journal

variable {σ : Type} {m : Type -> Type}

/-! ## The agenda -/

/-- What has to change, in the order of the phases that apply it. -/
def portions {kind : Kind} (event : Event) (change : ChangeSet kind) :
    List (Phase × List (Object kind)) :=
  match event with
  | .apply =>
    [(.applyCreate, change.create), (.applyDelete, change.delete), (.applyUpdate, change.update)]
  | .delete => [(.applyDelete, change.delete)]

/-- The phase in which what has to change is found. -/
def patchPhase : Event -> Phase
  | .apply => .updatePatch
  | .delete => .deletePatch

/-- The phases that apply portions of what has to change, without those that would have nothing
to do. -/
def applications (resource : Resource m) (place : Nat)
    (portions : List (Phase × List (Object resource.kind))) : List Step :=
  (portions.filter fun portion => !portion.2.isEmpty).map fun portion =>
    ⟨resource.call place (.apply portion.1 portion.2), ()⟩

/-- What the phases of a resource answer in a pass. -/
structure Visit (m : Type -> Type) where
  resource : Resource m
  current : List (Object resource.kind)
  desired : List (Object resource.kind)
  change : ChangeSet resource.kind

/-- The phases of a resource in order, each given what those before it have answered. -/
def Visit.steps (event : Event) (place : Nat) (visit : Visit m) : List Step :=
  let step (task : Task visit.resource.kind) (answer : task.Answer) : Step :=
    ⟨visit.resource.call place task, answer⟩
  step .read visit.current :: step .want visit.desired ::
    step (.compare (patchPhase event) visit.current visit.desired) visit.change ::
      applications visit.resource place (portions event visit.change)

/-- The phases of one resource after the other. -/
def agenda (event : Event) (place : Nat) (visits : List (Visit m)) : List Step :=
  (visits.zipIdx place).flatMap fun visit => visit.1.steps event visit.2

/-! ## Runs -/

/-- A part of a pass, run from a context and a state. -/
def ran (work : Work (StateM σ) α) (context : Context) (state : σ) :
    (Except Failure α × Context) × σ :=
  (work.run.run context).run state

section

variable {context : Context} {state : σ}

/-- What follows is run from what was left, unless there was a failure. -/
theorem ran_bind (work : Work (StateM σ) α) (next : α -> Work (StateM σ) β) :
    ran (work >>= next) context state =
      match ran work context state with
      | ((.ok value, context), state) => ran (next value) context state
      | ((.error failure, context), state) => ((.error failure, context), state) := by
  show (match ran work context state with
    | (left, state) => ((ExceptT.bindCont next left.1).run left.2).run state) = _
  rcases ran work context state with ⟨⟨failure | value, after⟩, left⟩
  · rfl
  · rfl

/-- A phase changes nothing but the names in a failure. -/
theorem ran_inPhase (name : String) (phase : Phase) (work : Work (StateM σ) α) :
    ran (Work.inPhase name phase work) context state =
      (((ran work context state).1.1.mapError (.inPhase name phase), (ran work context state).1.2),
        (ran work context state).2) := rfl

/-- To ask whether the pass is to stop changes nothing. -/
theorem ran_isCancelled :
    ran (Work.isCancelled : Work (StateM σ) Bool) context state =
      ((.ok context.cancelled, context), state) := rfl

/-- Nothing is done any more once the pass is to stop. -/
theorem ran_stopped (next : Work (StateM σ) Unit) (state : σ) (stops : context.cancelled = true) :
    ran (Resource.unlessCancelled next) context state = ((.ok (), context), state) := by
  show ran (if context.cancelled then pure () else next) context state = _
  rw [stops]
  rfl

/-- Until then what comes next is done. -/
theorem ran_going (next : Work (StateM σ) Unit) (state : σ) (going : context.cancelled = false) :
    ran (Resource.unlessCancelled next) context state = ran next context state := by
  show ran (if context.cancelled then pure () else next) context state = _
  rw [going]
  rfl

end

/-! ## Following the agenda -/

/-- A pass that ends with an entry that is not quiet is not completed. -/
theorem Entry.ending_ne_completed {entry : Entry} (unquiet : ¬ entry.Quiet) :
    entry.ending ≠ .ok .completed := by
  unfold ending
  cases answer : entry.answer with
  | error cause => simp
  | ok value =>
    cases cancelled : entry.cancelled with
    | true => simp
    | false => exact absurd ⟨by rw [answer]; rfl, cancelled⟩ unquiet

/-- An answer as the agenda has it is quiet. -/
theorem Step.quiet_entry (step : Step) : step.entry.Quiet := ⟨rfl, rfl⟩

namespace Follows

variable {steps later : List Step} {entries more : List Entry} {result : Except Failure Outcome}

/-- What is gone through leads to what comes next. -/
theorem append (first : Follows steps entries (.ok .completed))
    (second : Follows later more result) : Follows (steps ++ later) (entries ++ more) result := by
  generalize completed : (.ok .completed : Except Failure Outcome) = ending at first
  induction first with
  | done => exact second
  | answered step follows ih => exact .answered step (ih completed)
  | stopped step steps call unquiet =>
    exact absurd completed.symm (Entry.ending_ne_completed unquiet)

/-- Whatever comes next is dropped where the agenda was left. -/
theorem extend (first : Follows steps entries result) (left : result ≠ .ok .completed)
    (later : List Step) : Follows (steps ++ later) entries result := by
  induction first with
  | done => exact absurd rfl left
  | answered step follows ih => exact .answered step (ih left)
  | stopped step steps call unquiet => exact .stopped step (steps ++ later) call unquiet

/-- Nothing is noted after an entry that is not quiet. -/
theorem nil_of_unquiet (follows : Follows steps entries result) {before after : List Entry}
    {entry : Entry} (split : entries = before ++ entry :: after) (unquiet : ¬ entry.Quiet) :
    after = [] := by
  induction follows generalizing before with
  | done => simp at split
  | answered step follows ih =>
    cases before with
    | nil =>
      obtain ⟨rfl, -⟩ := List.cons.inj split
      exact absurd step.quiet_entry unquiet
    | cons head before => exact ih (List.cons.inj split).2
  | stopped step steps call stops =>
    cases before with
    | nil => exact (List.cons.inj split).2.symm
    | cons head before => simp at split

/-- An entry that is not quiet decides how the pass ends. -/
theorem eq_ending_of_unquiet (follows : Follows steps entries result) {entry : Entry}
    (mem : entry ∈ entries) (unquiet : ¬ entry.Quiet) : result = entry.ending := by
  induction follows with
  | done => cases mem
  | answered step follows ih =>
    rcases List.mem_cons.1 mem with rfl | mem
    · exact absurd step.quiet_entry unquiet
    · exact ih mem
  | stopped step steps call stops => rw [List.mem_singleton.1 mem]

/-- A pass is completed if, and only if, all its entries are quiet. -/
theorem eq_completed_iff (follows : Follows steps entries result) :
    result = .ok .completed <-> ∀ entry ∈ entries, entry.Quiet := by
  constructor
  · intro completed entry mem
    refine Classical.byContradiction fun unquiet => ?_
    exact Entry.ending_ne_completed unquiet
      ((follows.eq_ending_of_unquiet mem unquiet).symm.trans completed)
  · intro quiet
    induction follows with
    | done => rfl
    | answered step follows ih => exact ih fun entry mem => quiet entry (List.mem_cons_of_mem _ mem)
    | stopped step steps call stops => exact absurd (quiet _ (List.mem_singleton.2 rfl)) stops

end Follows

/-- What was noted of a pass keeps to its agenda, and ends as the pass does. -/
structure Orderly (agenda : List Step) (history : List Entry) (result : Except Failure Outcome) :
    Prop where
  inOrder : Follows agenda history result
  /-- After a phase that fails, or tells the pass to stop, no phase is begun. -/
  last : ∀ before entry after, history = before ++ entry :: after -> ¬ entry.Quiet -> after = []
  /-- The pass fails as its phase did, with the names of the resource and the phase. -/
  failed : ∀ entry ∈ history, ∀ cause, entry.answer = .error cause -> ∃ failure,
    result = .error failure ∧ failure = .inPhase entry.name entry.task.phase cause ∧
      failure.isRetryable = cause.isRetryable ∧ failure.isNotFound = cause.isNotFound ∧
      failure.isAlreadyExists = cause.isAlreadyExists ∧ failure.isConflict = cause.isConflict
  cancelled : ∀ entry ∈ history, entry.answer.isOk = true -> entry.cancelled = true ->
    result = .ok (.cancelled entry.name)
  completed : result = .ok .completed <-> ∀ entry ∈ history, entry.Quiet

/-- All that the agenda implies of a pass that follows it. -/
theorem Follows.orderly {agenda : List Step} {history : List Entry}
    {result : Except Failure Outcome} (follows : Follows agenda history result) :
    Orderly agenda history result where
  inOrder := follows
  last before entry after := follows.nil_of_unquiet
  failed entry mem cause answer := by
    have unquiet : ¬ entry.Quiet := by
      rintro ⟨answered, -⟩
      rw [answer] at answered
      cases answered
    refine ⟨.inPhase entry.name entry.task.phase cause, ?_, rfl, rfl, rfl, rfl, rfl⟩
    rw [follows.eq_ending_of_unquiet mem unquiet, Entry.ending, answer]
  cancelled entry mem answered cancelled := by
    have unquiet : ¬ entry.Quiet := fun quiet => nomatch quiet.2.symm.trans cancelled
    rw [follows.eq_ending_of_unquiet mem unquiet, Entry.ending]
    cases answer : entry.answer with
    | error cause =>
      rw [answer] at answered
      cases answered
    | ok value => simp [cancelled]
  completed := follows.eq_completed_iff

/-! ## Notes -/

/-- How a pass ends for which a resource of some name has left this. -/
def ended (name : String) : Except Failure Unit × Context -> Except Failure Outcome
  | (.error failure, _) => .error failure
  | (.ok (), context) => if context.cancelled then .ok (.cancelled name) else .ok .completed

/-- A part of a pass that keeps a journal does what it does without one. Of the entries that it
notes, and of how the pass is to end by what was left, something holds. -/
def Notes (plain : Work (StateM σ) α) (noting : Work (StateM (σ × List Entry)) α)
    (ending : Except Failure α × Context -> Except Failure Outcome)
    (post : List Entry -> Except Failure Outcome -> Prop) (context : Context) (state : σ) : Prop :=
  ∃ entries, (∀ history, ran noting context (state, history) =
      ((ran plain context state).1, (ran plain context state).2, history ++ entries)) ∧
    post entries (ending (ran plain context state).1)

section

variable {context : Context} {state : σ}

/-- A recorded phase does what it does otherwise, and adds its entry. -/
theorem ran_recorded (call : Call) (work : Work (StateM σ) call.task.Answer)
    (history : List Entry) :
    ran (recorded call work) context (state, history) =
      ((ran work context state).1, (ran work context state).2,
        history ++ [{ call with
          answer := (ran work context state).1.1
          cancelled := (ran work context state).1.2.cancelled }]) := rfl

/-- Notes depend only on what is run. -/
theorem Notes.congr {plain same : Work (StateM σ) α}
    {noting sameNoting : Work (StateM (σ × List Entry)) α}
    {ending : Except Failure α × Context -> Except Failure Outcome}
    {post : List Entry -> Except Failure Outcome -> Prop}
    (notes : Notes same sameNoting ending post context state)
    (plainly : ran plain context state = ran same context state)
    (noted : ∀ history,
      ran noting context (state, history) = ran sameNoting context (state, history)) :
    Notes plain noting ending post context state := by
  unfold Notes
  simp only [plainly, noted]
  exact notes

/-- A phase is noted, and what follows it unless it failed or the pass is told to stop. -/
theorem notes_phase (call : Call) {work : Work (StateM σ) call.task.Answer}
    {next : call.task.Answer -> Work (StateM σ) Unit}
    {noting : call.task.Answer -> Work (StateM (σ × List Entry)) Unit}
    {post : List Entry -> Except Failure Outcome -> Prop}
    (stopped : ∀ entry : Entry, entry.toCall = call -> ¬ entry.Quiet -> post [entry] entry.ending)
    (following : ∀ answer context state, context.cancelled = false ->
      Notes (next answer) (noting answer) (ended call.name)
        (fun entries => post (Step.entry ⟨call, answer⟩ :: entries)) context state) :
    Notes
      (Work.inPhase call.name call.task.phase work >>= fun answer =>
        Resource.unlessCancelled (next answer))
      (Work.inPhase call.name call.task.phase (recorded call work) >>= fun answer =>
        Resource.unlessCancelled (noting answer))
      (ended call.name) post context state := by
  unfold Notes
  simp only [ran_bind, ran_inPhase, ran_recorded]
  rcases ran work context state with ⟨⟨failure | answer, context⟩, state⟩
  · let entry : Entry := { call with answer := .error failure, cancelled := context.cancelled }
    refine ⟨[entry], fun history => rfl, stopped entry rfl ?_⟩
    rintro ⟨answered, -⟩
    cases answered
  · -- The phase is noted before the context is asked, so both branches begin with its entry.
    let entry : Entry := { call with answer := .ok answer, cancelled := context.cancelled }
    let left := ran (Resource.unlessCancelled (next answer)) context state
    show ∃ entries, (∀ history,
      ran (Resource.unlessCancelled (noting answer)) context (state, history ++ [entry]) =
        (left.1, left.2, history ++ entries)) ∧ post entries (ended call.name left.1)
    cases cancelled : context.cancelled with
    | true =>
      have unquiet : ¬ entry.Quiet := fun quiet => nomatch quiet.2.symm.trans cancelled
      have plain : left = ((.ok (), context), state) := ran_stopped _ state cancelled
      have ending : ended call.name left.1 = entry.ending := by
        rw [plain]
        rfl
      refine ⟨[entry], fun history => ?_, ending ▸ stopped entry rfl unquiet⟩
      rw [ran_stopped _ _ cancelled, plain]
    | false =>
      obtain ⟨entries, notes, holds⟩ := following answer context state cancelled
      have plain : left = ran (next answer) context state := ran_going _ state cancelled
      have quiet : entry = Step.entry ⟨call, answer⟩ := by
        simp only [entry, cancelled, Step.entry]
      rw [plain, quiet]
      refine ⟨Step.entry ⟨call, answer⟩ :: entries, fun history => ?_, holds⟩
      rw [ran_going _ _ cancelled, notes, List.append_assoc]
      rfl

/-- The last phase may as well be followed by nothing unless the pass is told to stop. -/
theorem ran_last (work : Work (StateM σ) Unit) (context : Context) (state : σ) :
    ran work context state =
      ran (work >>= fun _ => Resource.unlessCancelled (pure ())) context state := by
  rw [ran_bind]
  rcases ran work context state with ⟨⟨failure | ⟨⟩, context⟩, state⟩
  · rfl
  · show _ = ran (Resource.unlessCancelled (pure ())) context state
    cases cancelled : context.cancelled with
    | true => rw [ran_stopped _ state cancelled]
    | false =>
      rw [ran_going _ state cancelled]
      rfl

/-- To do nothing is to note nothing. -/
theorem notes_nothing {name : String} (going : context.cancelled = false) :
    Notes (pure () : Work (StateM σ) Unit) (pure ()) (ended name) (Follows []) context state := by
  refine ⟨[], fun history => ?_, ?_⟩
  · rw [List.append_nil]
    rfl
  · show Follows [] [] (if context.cancelled then _ else _)
    rw [going]
    exact .done

end

/-! ## Resources -/

section

variable (resource : Resource (StateM σ)) (place : Nat) {context : Context} {state : σ}

/-- A difference is noted as applied if there is one, and then comes what follows. -/
theorem notes_applying (phase : Phase) (apply : List (Object resource.kind) -> Work (StateM σ) Unit)
    (objects : List (Object resource.kind)) {next : Work (StateM σ) Unit}
    {noting : Work (StateM (σ × List Entry)) Unit}
    {portions : List (Phase × List (Object resource.kind))}
    (following : ∀ context state, context.cancelled = false -> Notes next noting
      (ended resource.name) (Follows (applications resource place portions)) context state)
    (going : context.cancelled = false) :
    Notes (resource.applying phase apply objects >>= fun _ => Resource.unlessCancelled next)
      ((resource.recorded place).applying phase
          (fun objects => recorded (resource.call place (.apply phase objects)) (apply objects))
          objects >>= fun _ => Resource.unlessCancelled noting)
      (ended resource.name) (Follows (applications resource place ((phase, objects) :: portions)))
      context state := by
  unfold Resource.applying
  cases objects with
  | nil =>
    exact (following context state going).congr (ran_going next state going)
      fun history => ran_going noting (state, history) going
  | cons object objects =>
    refine notes_phase (resource.call place (.apply phase (object :: objects))) ?_ ?_
    · intro entry call unquiet
      exact .stopped _ _ call unquiet
    · intro answer context state going
      obtain ⟨entries, notes, follows⟩ := following context state going
      exact ⟨entries, notes, .answered _ follows⟩

/-- Objects are applied in the last phase of a resource. -/
theorem notes_applyingLast (phase : Phase)
    (apply : List (Object resource.kind) -> Work (StateM σ) Unit)
    (objects : List (Object resource.kind)) (going : context.cancelled = false) :
    Notes (resource.applying phase apply objects)
      ((resource.recorded place).applying phase
        (fun objects => recorded (resource.call place (.apply phase objects)) (apply objects))
        objects)
      (ended resource.name) (Follows (applications resource place [(phase, objects)]))
      context state :=
  (notes_applying resource place phase apply objects
    (fun _ _ going => notes_nothing going) going).congr (ran_last _ context state)
    fun history => ran_last _ context (state, history)

/-- The phases that read, compute and compare are noted, and what is done about the difference. -/
theorem notes_withPatch (event : Event)
    (patch : List (Object resource.kind) -> List (Object resource.kind) ->
      Work (StateM σ) (ChangeSet resource.kind))
    {next : ChangeSet resource.kind -> Work (StateM σ) Unit}
    {noting : ChangeSet resource.kind -> Work (StateM (σ × List Entry)) Unit}
    (following : ∀ change context state, context.cancelled = false ->
      Notes (next change) (noting change) (ended resource.name)
        (Follows (applications resource place (portions event change))) context state) :
    Notes (resource.withPatch (patchPhase event) patch next)
      ((resource.recorded place).withPatch (patchPhase event)
        (fun current desired =>
          recorded (resource.call place (.compare (patchPhase event) current desired))
            (patch current desired))
        noting)
      (ended resource.name)
      (fun entries result => ∃ visit : Visit (StateM σ), visit.resource = resource ∧
        Follows (visit.steps event place) entries result) context state := by
  -- Where the agenda is left, the visit may say anything of the phases that are not begun.
  refine notes_phase (resource.call place .read) (fun entry call unquiet => ?_) ?_
  · exact ⟨⟨resource, [], [], {}⟩, rfl, .stopped _ _ call unquiet⟩
  intro current context state _
  refine notes_phase (resource.call place .want) (fun entry call unquiet => ?_) ?_
  · exact ⟨⟨resource, current, [], {}⟩, rfl, .answered _ (.stopped _ _ call unquiet)⟩
  intro desired context state _
  refine notes_phase (resource.call place (.compare (patchPhase event) current desired))
    (fun entry call unquiet => ?_) ?_
  · exact ⟨⟨resource, current, desired, {}⟩, rfl,
      .answered _ (.answered _ (.stopped _ _ call unquiet))⟩
  intro change context state going
  obtain ⟨entries, notes, follows⟩ := following change context state going
  exact ⟨entries, notes, ⟨resource, current, desired, change⟩, rfl,
    .answered _ (.answered _ (.answered _ follows))⟩

/-- A handler goes through the phases of its resource. -/
theorem notes_handle (event : Event) (context : Context) (state : σ) :
    Notes (Pass.handle event resource.handler)
      (Pass.handle event (resource.recorded place).handler)
      (ended resource.name)
      (fun entries result => ∃ visit : Visit (StateM σ), visit.resource = resource ∧
        Follows (visit.steps event place) entries result) context state := by
  cases event with
  | apply =>
    refine notes_withPatch resource place .apply resource.updatePatch ?_
    intro change context state going
    refine notes_applying resource place .applyCreate resource.applyCreate change.create ?_ going
    intro context state going
    refine notes_applying resource place .applyDelete resource.applyDelete change.delete ?_ going
    intro context state going
    exact notes_applyingLast resource place .applyUpdate resource.applyUpdate change.update going
  | delete =>
    refine notes_withPatch resource place .delete resource.deletePatch ?_
    intro change context state going
    exact notes_applyingLast resource place .applyDelete resource.applyDelete change.delete going

end

/-! ## Passes -/

/-- The resources of a pass with all of their phases noted in a journal. -/
def recordedFrom (place : Nat) (resources : List (Resource (StateM σ))) :
    List (Resource (StateM (σ × List Entry))) :=
  (resources.zipIdx place).map fun resource => resource.1.recorded resource.2

/-- The first resource has the first place, and the others those after it. -/
theorem recordedFrom_cons (place : Nat) (resource : Resource (StateM σ))
    (resources : List (Resource (StateM σ))) :
    recordedFrom place (resource :: resources) =
      resource.recorded place :: recordedFrom (place + 1) resources := rfl

/-- The visits of resources that a pass does not come to. -/
theorem exists_visits (resources : List (Resource m)) :
    ∃ visits : List (Visit m), visits.map Visit.resource = resources := by
  refine ⟨resources.map fun resource => ⟨resource, [], [], {}⟩, ?_⟩
  rw [List.map_map]
  exact List.map_id resources

/-- A pass that keeps a journal does what it does without one, and what is noted follows an agenda.
The induction is on the resources. -/
theorem notes_steps (event : Event) (resources : List (Resource (StateM σ))) (place : Nat)
    (context : Context) (state : σ) :
    Notes (Pass.steps event (resources.map Resource.handler))
      (Pass.steps event ((recordedFrom place resources).map Resource.handler))
      Prod.fst
      (fun entries result => ∃ visits : List (Visit (StateM σ)),
        visits.map Visit.resource = resources ∧ Follows (agenda event place visits) entries result)
      context state := by
  -- The place counts the resources that are done, and the context is the one they have left.
  induction resources generalizing place context state with
  | nil => exact ⟨[], fun history => by rw [List.append_nil]; rfl, [], rfl, .done⟩
  | cons resource resources ih =>
    obtain ⟨entries, notes, visit, rfl, follows⟩ :=
      notes_handle resource place event context state
    obtain ⟨unvisited, rest⟩ := exists_visits resources
    have all : (visit :: unvisited).map Visit.resource = visit.resource :: resources := by
      rw [List.map_cons, rest]
    unfold Notes
    simp only [recordedFrom_cons, List.map_cons, Pass.steps, ran_bind, notes]
    revert follows
    rcases ran (Pass.handle event visit.resource.handler) context state with
      ⟨⟨failure | ⟨⟩, context⟩, state⟩
    · intro follows
      refine ⟨entries, fun history => rfl, visit :: unvisited, all, ?_⟩
      exact follows.extend nofun _
    · intro follows
      simp only [ran_isCancelled]
      cases cancelled : context.cancelled with
      | true =>
        have left : ended visit.resource.name (.ok (), context) =
            .ok (.cancelled visit.resource.name) := by
          simp [ended, cancelled]
        rw [left] at follows
        refine ⟨entries, fun history => rfl, visit :: unvisited, all, ?_⟩
        exact follows.extend nofun _
      | false =>
        have onward : ended visit.resource.name (.ok (), context) = .ok .completed := by
          simp [ended, cancelled]
        rw [onward] at follows
        obtain ⟨more, notesMore, visits, same, followsMore⟩ := ih (place + 1) context state
        refine ⟨entries ++ more, fun history => ?_, visit :: visits, ?_, follows.append followsMore⟩
        · refine (notesMore (history ++ entries)).trans ?_
          rw [List.append_assoc]
          rfl
        · rw [List.map_cons, same]

/-- Of any resources, whatever their phases answer, a pass begins the phases in order, each given
what those before it have answered, up to the first that fails or tells the pass to stop, and
ends as that one says. It does the same when no journal is kept. -/
theorem orderly_run (event : Event) (resources : List (Resource (StateM σ))) (state : σ) :
    let plain := (Pass.run event (resources.map Resource.handler)).run.run state
    let noted := (Pass.run event ((recordedFrom 0 resources).map Resource.handler)).run.run
      (state, [])
    noted.1 = plain.1 ∧ noted.2.1 = plain.2 ∧
      ∃ visits : List (Visit (StateM σ)), visits.map Visit.resource = resources ∧
        Orderly (agenda event 0 visits) noted.2.2 plain.1 := by
  intro plain noted
  obtain ⟨entries, notes, visits, same, follows⟩ :=
    notes_steps event resources 0 { event := event } state
  have history : noted = (plain.1, plain.2, entries) := by
    have whole := congrArg (fun left => (left.1.1, left.2)) (notes [])
    exact whole
  rw [history]
  exact ⟨rfl, rfl, visits, same, follows.orderly⟩

end Journal

end GuestFleet
