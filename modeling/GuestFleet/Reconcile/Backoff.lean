import GuestFleet.Digest.Sha256
import GuestFleet.Time.Span

/-!
# Backoff

How long to wait before a phase is tried again. The delay doubles from try to try up
to a greatest one, and is spread by a share that depends only on who retries what, so
that many clusters do not come back at the same moment.
-/

namespace GuestFleet

open Number (Binary64)
open Time (Span)

/-- How often and after which delays a phase is tried again. -/
structure RetryPolicy where
  /-- The count of tries after the first. -/
  maxRetries : Nat
  /-- The delay before the first retry. -/
  baseDelay : Span
  /-- The greatest delay before it is spread. -/
  maxDelay : Span
  /-- The share of the delay by which it is spread up or down. -/
  jitter : Binary64
deriving DecidableEq, Repr

namespace RetryPolicy

/-- Three retries from 200 milliseconds to 5 seconds, spread by a fifth. -/
def standard : RetryPolicy := ⟨3, .ofMilliseconds 200, .ofSeconds 5, ⟨0x3fc999999999999a⟩⟩

/-- The same delay before every retry. -/
def fixed (maxRetries : Nat) (delay : Span) : RetryPolicy := ⟨maxRetries, delay, delay, ⟨0⟩⟩

/-- The delay before a retry, not yet spread. It doubles at most sixteen times. -/
def nominal (policy : RetryPolicy) (retry : Nat) : Span :=
  (policy.baseDelay.times (Nat.pow 2 (min (retry - 1) 16))).shorter policy.maxDelay

/-- What the share of a retry is derived from. -/
def spreadSource (resource scope : String) (retry : Nat) : List UInt8 :=
  resource.toUTF8.toList ++ 0 :: scope.toUTF8.toList ++ Digest.Sha256.bigEndian 4 retry

/-- A number from -1 to 1 that depends on the resource, the scope and the retry alone. -/
def spread (resource scope : String) (retry : Nat) : Float :=
  let head := Digest.ofBigEndian ((Digest.sha256 (spreadSource resource scope retry)).take 8)
  Float.ofNat head / 18446744073709551616.0 * 2.0 - 1.0

/-- The factor by which a delay is spread; shares beyond 1 count as 1. -/
def factor (policy : RetryPolicy) (resource scope : String) (retry : Nat) : Float :=
  let share := policy.jitter.toFloat
  let bounded := if share < 1.0 then share else 1.0
  let factor := 1.0 + bounded * spread resource scope retry
  if factor > 0.0 then factor else 0.0

/-- The delay before a retry, counted from one. A delay that is spread can be longer than
is tenable. -/
def backoff (policy : RetryPolicy) (retry : Nat) (resource scope : String) : Span :=
  let nominal := policy.nominal retry
  if nominal.isZero || policy.jitter.isAtMostZero then nominal
  else nominal.scaled (policy.factor resource scope retry)

end RetryPolicy

end GuestFleet
