import GuestFleet.Proofs.Store.Ledger
import GuestFleet.Proofs.Store.Requests
import GuestFleet.Proofs.Store.Touched

/-!
# What was written, and how often

The calls that changed a collection, as a list of slots. A collection tells what a slot holds,
but not how often it was written on the way; the log does, and both are seen here together.
-/

namespace GuestFleet

namespace Store

open Kube (Kind Object)

/-- Whether a call of an operation changes what is stored, when it goes well. -/
def Operation.isWrite : Operation -> Bool
  | .get => false
  | .list => false
  | .create => true
  | .replace => true
  | .delete => true

/-- A slot that was written or emptied. -/
structure Write where
  operation : Operation
  slot : Slot
deriving DecidableEq

/-- What a call of a kind has written, if it went well. -/
def Call.write? (kind : Kind) (call : Call) : Option Write :=
  if call.kind = kind ∧ call.operation.isWrite = true ∧ call.result.isOk = true then
    some ⟨call.operation, .make call.space call.name⟩
  else none

/-- The writes of a kind in a log. -/
def writesIn (kind : Kind) (log : List Call) : List Write := log.filterMap (Call.write? kind)

/-- The writes of a kind that came after those of an earlier state. -/
def World.writesSince (world earlier : World) (kind : Kind) : List Write :=
  writesIn kind (world.callsSince earlier)

/-- One more call adds its write, if it is one. -/
theorem writesIn_cons (kind : Kind) (call : Call) (log : List Call) :
    writesIn kind (call :: log) = (call.write? kind).toList ++ writesIn kind log := by
  cases wrote : call.write? kind with
  | none => exact List.filterMap_cons_none wrote
  | some write => exact List.filterMap_cons_some wrote

/-- What a log has more than an earlier one was written since. -/
theorem writesIn_of_grown {world earlier : World} {new : List Call}
    (grown : world.log = new ++ earlier.log) (kind : Kind) :
    writesIn kind world.log = (world.writesSince earlier kind).reverse ++
      writesIn kind earlier.log := by
  rw [World.writesSince, callsSince_eq grown, grown, writesIn, List.filterMap_append,
    writesIn, List.filterMap_reverse, List.reverse_reverse]
  rfl

namespace View

variable {kind : Kind}

/-- The collection of a kind with the writes to it, the latest first. -/
def written (kind : Kind) : View (Collection kind × List Write) :=
  ledger.part fun ledger => (ledger.collections.get kind, writesIn kind ledger.log)

/-- What was written does not depend on what is awaited. -/
theorem written_awaiting (world : World) (hazards : Kind -> List Fault) :
    (written kind).see (world.awaiting hazards) =
      ({ world.collections.get kind with faults := hazards kind }, writesIn kind world.log) :=
  congrArg (·, writesIn kind world.log) (world.get_awaiting hazards kind)

/-- A call adds a write to the list if it writes and goes well. -/
theorem either_written {world : World} {operation : Operation} {space : Option String}
    {name : String} {grace : Option Nat} {size : α -> Option Nat}
    {change : Collection kind -> Except Failure α × Collection kind}
    {ok : α -> Collection kind × List Write -> Prop}
    {fail : Failure -> Collection kind × List Write -> Prop}
    (answer : Either
      (fun value d => ok value (d,
        if operation.isWrite then
          ⟨operation, .make space name⟩ :: writesIn kind world.log
        else writesIn kind world.log))
      (fun failure d => fail failure (d, writesIn kind world.log))
      (change (world.collections.get kind)).1 (change (world.collections.get kind)).2) :
    Either ok fail (world.call operation kind space name grace size change).1
      ((written kind).see (world.call operation kind space name grace size change).2) := by
  have kept : (world.call operation kind space name grace size change).2.collections.get kind =
      (change (world.collections.get kind)).2 := Collections.get_set world.collections kind _
  have here : (written kind).see (world.call operation kind space name grace size change).2 =
      ((change (world.collections.get kind)).2, writesIn kind
        (world.call operation kind space name grace size change).2.log) := by
    rw [← kept]
    rfl
  rw [here, World.call_log, World.call_reply, writesIn_cons]
  cases result : (change (world.collections.get kind)).1 with
  | ok value =>
    rw [result] at answer
    cases isWrite : operation.isWrite with
    | true =>
      simpa [Either, Call.write?, isWrite, Except.isOk, Except.toBool, Except.map] using answer
    | false => simpa [Either, Call.write?, isWrite] using answer
  | error failure =>
    rw [result] at answer
    simpa [Either, Call.write?, Except.isOk, Except.toBool, Except.map] using answer

end View

end Store

/-! ## Requests and their writes -/

namespace Request

open Kube (Kind Object)
open Store (Collection Slot View Write slotOf)

variable {kind : Kind} {c : Collection kind} {writes : List Write}
  {fail : Failure -> Collection kind × List Write -> Prop}

/-- A get is no write, however it ends. -/
theorem ends_get_written_alone {space : Option String} {name : String}
    {ok : Object kind -> Collection kind × List Write -> Prop}
    (answer : Either (fun object d => ok object (d, writes)) (fun failure d =>
      fail failure (d, writes)) (c.get (.make space name)).1 (c.get (.make space name)).2) :
    (Request.get kind space name).Ends (View.written kind).alone (c, writes) ok fail := by
  rintro reply after ⟨world, seen, rfl, rfl⟩
  obtain ⟨rfl, rfl⟩ := Prod.mk.inj seen
  exact View.either_written answer

/-- A list is no write, however it ends. -/
theorem ends_list_written_alone {space : Option String} {selector : String}
    {ok : List (Object kind) -> Collection kind × List Write -> Prop}
    (answer : Either (fun objects d => ok objects (d, writes)) (fun failure d =>
      fail failure (d, writes)) (c.list space selector).1 (c.list space selector).2) :
    (Request.list kind space selector).Ends (View.written kind).alone (c, writes) ok fail := by
  rintro reply after ⟨world, seen, rfl, rfl⟩
  obtain ⟨rfl, rfl⟩ := Prod.mk.inj seen
  exact View.either_written answer

/-- A create is a write of the slot if it goes well. -/
theorem ends_create_written_alone {object : Object kind}
    {ok : Object kind -> Collection kind × List Write -> Prop}
    (answer : Either (fun created d => ok created (d, ⟨.create, slotOf object⟩ :: writes))
      (fun failure d => fail failure (d, writes)) (c.create object).1 (c.create object).2) :
    (Request.create object).Ends (View.written kind).alone (c, writes) ok fail := by
  rintro reply after ⟨world, seen, rfl, rfl⟩
  obtain ⟨rfl, rfl⟩ := Prod.mk.inj seen
  exact View.either_written answer

/-- A replace is a write of the slot if it goes well. -/
theorem ends_replace_written_alone {object : Object kind}
    {ok : Object kind -> Collection kind × List Write -> Prop}
    (answer : Either (fun replaced d => ok replaced (d, ⟨.replace, slotOf object⟩ :: writes))
      (fun failure d => fail failure (d, writes)) (c.replace object).1 (c.replace object).2) :
    (Request.replace object).Ends (View.written kind).alone (c, writes) ok fail := by
  rintro reply after ⟨world, seen, rfl, rfl⟩
  obtain ⟨rfl, rfl⟩ := Prod.mk.inj seen
  exact View.either_written answer

/-- A call ends as demanded of a collection and its writes when it does with any failures awaited
of those that may come. -/
theorem ends_written_of_alone {request : Request α} (isCall : request.IsCall)
    {ok : α -> Collection kind × List Write -> Prop}
    (ends : ∀ faults ⊆ c.faults,
      request.Ends (View.written kind).alone ({ c with faults := faults }, writes)
        (fun value now => ok value ({ now.1 with faults := c.faults }, now.2))
        fun failure now => fail failure ({ now.1 with faults := c.faults }, now.2)) :
    request.Ends (View.written kind).around (c, writes) ok fail := by
  refine ends_of_awaiting kind (fun faults now => ({ now.1 with faults := faults }, now.2))
    View.written_awaiting isCall ?_
  intro world may among seen
  obtain ⟨rfl, rfl⟩ := Prod.mk.inj seen
  exact ends _ among

end Request

end GuestFleet
