import GuestFleet.Reconcile.Backoff
import GuestFleet.Store.Program

/-!
# Retries

An operation is tried again, each time after a longer pause, as long as its failure may
pass and tries are left. The last failure is handed on as it is.
-/

namespace GuestFleet.RetryPolicy

variable [Monad m] [Pauses m]

/-- Tries an operation; after the `tried`-th retryable failure it pauses and goes on, so
often as `left` says. -/
def tryAgain (policy : RetryPolicy) (resource scope : String)
    (operation : ExceptT Failure m α) : Nat -> Nat -> ExceptT Failure m α
  | 0, _ => operation
  | left + 1, tried =>
    ExceptT.mk do
      match <- operation.run with
      | .ok value => return .ok value
      | .error failure =>
        if failure.isRetryable then
          Pauses.pause (policy.backoff tried resource scope)
          (policy.tryAgain resource scope operation left (tried + 1)).run
        else return .error failure

/-- Tries an operation as often as the policy allows. -/
def retry (policy : RetryPolicy) (resource scope : String) (operation : ExceptT Failure m α) :
    ExceptT Failure m α :=
  policy.tryAgain resource scope operation policy.maxRetries 1

end GuestFleet.RetryPolicy
