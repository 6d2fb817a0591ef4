import GuestFleet.Failure
import GuestFleet.Time.Span

/-!
# Requeueing

When an object is looked at again. After a failure that may pass it is soon, and later
with every failure in a row; after any other failure only a change of the object helps.
-/

namespace GuestFleet.Controller

open Time (Span)

/-- What happens after a pass. -/
inductive Action where
  /-- Nothing until the object changes. -/
  | awaitChange
  /-- Another pass after a while. -/
  | requeue (delay : Span)
deriving DecidableEq, Repr

/-- An action in words. -/
def Action.text : Action -> String
  | .awaitChange => "await_change"
  | .requeue delay => "requeue " ++ toString delay.seconds ++ "s"

/-- The delay after so many failures in a row: 30 seconds, doubled with every failure, up to
600 seconds. -/
def failureDelay (failures : Nat) : Span :=
  ((Span.ofSeconds 30).times (Nat.pow 2 (min (failures - 1) 5))).shorter (.ofSeconds 600)

/-- How many failures in a row each object has had, for those that had any. -/
abbrev FailureCounts := List (String × Nat)

namespace FailureCounts

/-- The failures in a row of an object. -/
def count (counts : FailureCounts) (key : String) : Nat := (List.lookup key counts).getD 0

/-- The counts after a pass that did not fail. -/
def succeeded (counts : FailureCounts) (key : String) : FailureCounts :=
  counts.filter fun entry => entry.1 != key

/-- The counts after a failure, and what to do. -/
def failed (counts : FailureCounts) (key : String) (failure : Failure) :
    Action × FailureCounts :=
  if failure.isRetryable then
    let failures := counts.count key + 1
    (.requeue (failureDelay failures), (key, failures) :: counts.succeeded key)
  else (.awaitChange, counts.succeeded key)

end FailureCounts

end GuestFleet.Controller
