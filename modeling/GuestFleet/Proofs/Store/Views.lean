import GuestFleet.Proofs.Program.Ends
import GuestFleet.Proofs.Store.Storms

/-!
# Views of the surroundings in memory

A proof about a program looks at as much of a world as it needs: at the collection of one
kind, or at all collections with the log. What is proved of the view holds of every run on
a world that is seen so. While failures are ordered at any time, a view shows which of them
may come, and not which are awaited.
-/

namespace GuestFleet

namespace Store

open Kube (Kind Object)

/-- A part of a world that neither the clock nor the registry of metrics is in. -/
structure View (σ : Type) where
  see : World -> σ
  clock_unseen : ∀ world clock steady,
    see { world with clock := clock, steady := steady } = see world
  registry_unseen : ∀ world registry, see { world with registry := registry } = see world

namespace View

variable {σ τ : Type}

/-- Worlds as they answer when nobody orders failures meanwhile, seen through a view. -/
def alone (view : View σ) : Surroundings σ where
  answers state command reply after :=
    ∃ world : World, view.see world = state ∧ (World.answer command world).1 = reply ∧
      view.see (World.answer command world).2 = after
  pause_quiet := by
    rintro state span reply after ⟨world, rfl, -, rfl⟩
    exact view.clock_unseen world _ _
  record_quiet := by
    rintro state event reply after ⟨world, rfl, -, rfl⟩
    exact view.registry_unseen world _

/-- Worlds as they answer while failures are ordered at any time, seen through a view. The
failures of a state are those that may come: before each command any of them may be awaited. -/
def around (view : View σ) : Surroundings σ where
  answers state command reply after :=
    ∃ (world : World) (hazards : Kind -> List Fault), world.Faces hazards ∧
      view.see (world.awaiting hazards) = state ∧ (World.answer command world).1 = reply ∧
      view.see ((World.answer command world).2.awaiting hazards) = after
  pause_quiet := by
    rintro state span reply after ⟨world, hazards, -, rfl, -, rfl⟩
    show view.see ({ world with clock := _, steady := _ }.awaiting hazards) = _
    rw [World.awaiting_clock, view.clock_unseen]
  record_quiet := by
    rintro state event reply after ⟨world, hazards, -, rfl, -, rfl⟩
    show view.see ({ world with registry := _ }.awaiting hazards) = _
    rw [World.awaiting_registry, view.registry_unseen]

/-- What holds at the end of a program in a view holds at the end of every run that nobody
interferes with. -/
theorem run_of_ends_alone (view : View σ) {program : Program α} {world : World}
    {post : α -> σ -> Prop} (ends : program.Ends view.alone (view.see world) post) :
    post (world.run program).1 (view.see (world.run program).2) := by
  induction program generalizing world with
  | done value => exact ends
  | step command next ih => exact ih _ (ends _ _ ⟨world, rfl, rfl, rfl⟩)

/-- What holds at the end of a request that ended well, when nobody interfered. -/
theorem ok_of_ends_alone (view : View σ) {request : Request α} {world : World}
    {ok : α -> σ -> Prop} {fail : Failure -> σ -> Prop}
    (ends : request.Ends view.alone (view.see world) ok fail) {value : α}
    (ended : (world.run request.run).1 = .ok value) :
    ok value (view.see (world.run request.run).2) := by
  have atEnd := view.run_of_ends_alone ends
  rw [ended] at atEnd
  exact atEnd

/-- A part of a view. -/
def part (view : View σ) (f : σ -> τ) : View τ where
  see world := f (view.see world)
  clock_unseen world clock steady := congrArg f (view.clock_unseen world clock steady)
  registry_unseen world registry := congrArg f (view.registry_unseen world registry)

/-- What holds at the end of a program in a part of a view holds of that part. -/
theorem ends_of_part {view : View σ} {f : σ -> τ} {program : Program α} {state : σ}
    {post : α -> τ -> Prop} (ends : program.Ends (view.part f).around (f state) post) :
    program.Ends view.around state fun value after => post value (f after) := by
  induction program generalizing state with
  | done value => exact ends
  | step command next ih =>
    rintro reply after ⟨world, hazards, faces, rfl, replied, rfl⟩
    exact ih reply (ends reply _ ⟨world, hazards, faces, rfl, replied, rfl⟩)

end View

/-- What calls can see and change: the collections and the log. -/
structure Ledger where
  collections : Collections
  /-- The calls so far, the latest first. -/
  log : List Call

/-- The collections and the log of a world. -/
def World.ledger (world : World) : Ledger := ⟨world.collections, world.log⟩

namespace View

/-- The collections and the log. -/
def ledger : View Ledger := ⟨World.ledger, fun _ _ _ => rfl, fun _ _ => rfl⟩

/-- The collection of a kind. -/
def collection (kind : Kind) : View (Collection kind) :=
  ledger.part fun ledger => ledger.collections.get kind

/-- A call goes as its answer by the collection of its kind does. -/
theorem either_call {kind : Kind} {world : World} {operation : Operation} {space : Option String}
    {name : String} {grace : Option Nat} {size : α -> Option Nat}
    {change : Collection kind -> Except Failure α × Collection kind}
    {ok : α -> Collection kind -> Prop} {fail : Failure -> Collection kind -> Prop}
    (answer : Either ok fail (change ((collection kind).see world)).1
      (change ((collection kind).see world)).2) :
    Either ok fail (world.call operation kind space name grace size change).1
      ((collection kind).see (world.call operation kind space name grace size change).2) := by
  have kept : (collection kind).see (world.call operation kind space name grace size change).2 =
      (change ((collection kind).see world)).2 := Collections.get_set world.collections kind _
  rw [kept]
  exact answer

end View

end Store

/-! ## Requests to one collection -/

namespace Request

open Kube (Kind Object)
open Store (Collection Slot View Operation Fault slotOf)
open Store.Collection (takeFault mayReplace)

variable {kind : Kind} {c : Collection kind} {fail : Failure -> Collection kind -> Prop}

/-- A get ends as the collection of its kind answers it. -/
theorem ends_get_alone {space : Option String} {name : String}
    {ok : Object kind -> Collection kind -> Prop}
    (answer : Either ok fail (c.get (.make space name)).1 (c.get (.make space name)).2) :
    (Request.get kind space name).Ends (View.collection kind).alone c ok fail := by
  rintro reply after ⟨world, rfl, rfl, rfl⟩
  exact View.either_call answer

/-- A list ends as the collection of its kind answers it. -/
theorem ends_list_alone {space : Option String} {selector : String}
    {ok : List (Object kind) -> Collection kind -> Prop}
    (answer : Either ok fail (c.list space selector).1 (c.list space selector).2) :
    (Request.list kind space selector).Ends (View.collection kind).alone c ok fail := by
  rintro reply after ⟨world, rfl, rfl, rfl⟩
  exact View.either_call answer

/-- A create ends as the collection of its kind answers it. -/
theorem ends_create_alone {object : Object kind} {ok : Object kind -> Collection kind -> Prop}
    (answer : Either ok fail (c.create object).1 (c.create object).2) :
    (Request.create object).Ends (View.collection kind).alone c ok fail := by
  rintro reply after ⟨world, rfl, rfl, rfl⟩
  exact View.either_call answer

/-- A replace ends as the collection of its kind answers it. -/
theorem ends_replace_alone {object : Object kind} {ok : Object kind -> Collection kind -> Prop}
    (answer : Either ok fail (c.replace object).1 (c.replace object).2) :
    (Request.replace object).Ends (View.collection kind).alone c ok fail := by
  rintro reply after ⟨world, rfl, rfl, rfl⟩
  exact View.either_call answer

/-- A delete ends as the collection of its kind answers it. -/
theorem ends_delete_alone {space : Option String} {name : String} {grace : Option Nat}
    {ok : Unit -> Collection kind -> Prop}
    (answer : Either ok fail (c.delete (.make space name) grace).1
      (c.delete (.make space name) grace).2) :
    (Request.delete kind space name grace).Ends (View.collection kind).alone c ok fail := by
  rintro reply after ⟨world, rfl, rfl, rfl⟩
  exact View.either_call answer

/-! ## Calls that any failure may befall -/

/-- Only one command is carried out, and what it is answered with is the end. -/
def IsCall (request : Request α) : Prop :=
  ∃ command next, request.run = .step command next ∧ ∀ reply, ∃ result, next reply = .done result

/-- In a view that shows what is awaited of one kind, a call ends as demanded when it does with any
failures awaited of those that may come. -/
theorem ends_of_awaiting (kind : Kind) {σ : Type} {view : View σ} (await : List Fault -> σ -> σ)
    (shows : ∀ (world : Store.World) (hazards : Kind -> List Fault),
      view.see (world.awaiting hazards) = await (hazards kind) (view.see world))
    {request : Request α} (isCall : request.IsCall) {state : σ} {ok : α -> σ -> Prop}
    {fail : Failure -> σ -> Prop}
    (ends : ∀ (world : Store.World) (may : List Fault),
      (world.collections.get kind).faults ⊆ may -> await may (view.see world) = state ->
        request.Ends view.alone (view.see world) (fun value after => ok value (await may after))
          fun failure after => fail failure (await may after)) :
    request.Ends view.around state ok fail := by
  obtain ⟨command, next, isStep, isLast⟩ := isCall
  unfold Request.Ends at ends ⊢
  rw [isStep] at ends ⊢
  rintro reply after ⟨world, hazards, faces, seen, replied, rfl⟩
  obtain ⟨result, last⟩ := isLast reply
  rw [shows] at seen ⊢
  have ended := ends world _ (faces kind) seen reply _ ⟨world, rfl, replied, rfl⟩
  rw [last] at ended ⊢
  cases result with
  | ok value => exact ended
  | error failure => exact ended

/-- A call ends as demanded of a collection when it does with any failures awaited of those that
may come. -/
theorem ends_of_alone {request : Request α} (isCall : request.IsCall)
    {ok : α -> Collection kind -> Prop}
    (ends : ∀ faults ⊆ c.faults, request.Ends (View.collection kind).alone { c with faults := faults }
      (fun value d => ok value { d with faults := c.faults })
      fun failure d => fail failure { d with faults := c.faults }) :
    request.Ends (View.collection kind).around c ok fail := by
  refine ends_of_awaiting kind (fun faults c => { c with faults := faults })
    (fun world hazards => world.get_awaiting hazards kind) isCall ?_
  rintro world may among rfl
  exact ends _ among

end Request

end GuestFleet
