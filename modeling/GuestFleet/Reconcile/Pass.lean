import GuestFleet.Reconcile.Resource

/-!
# Passes

A pass runs handlers in order on one context. The first failure ends it, and so does a
handler that tells it to stop; what earlier handlers did stays.
-/

namespace GuestFleet

/-- How a pass ended that did not fail. -/
inductive Outcome where
  /-- Every handler ran. -/
  | completed
  /-- A handler told the pass to stop. -/
  | cancelled (resource : String)
deriving DecidableEq, Repr

namespace Pass

variable [Monad m]

/-- Runs a handler for an event. -/
def handle (event : Event) (handler : Handler m) : Work m Unit :=
  match event with
  | .apply => handler.ensureCreated
  | .delete => handler.ensureDeleted

/-- Runs handlers until one of them ends the pass. -/
def steps (event : Event) : List (Handler m) -> Work m Outcome
  | [] => return .completed
  | handler :: handlers => do
    handle event handler
    if <- Work.isCancelled then return .cancelled handler.name else steps event handlers

/-- Runs a whole pass. -/
def run (event : Event) (handlers : List (Handler m)) : ExceptT Failure m Outcome :=
  ExceptT.mk do
    let (result, _) <- (steps event handlers).run.run { event := event }
    return result

end Pass

end GuestFleet
