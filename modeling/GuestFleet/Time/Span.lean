import GuestFleet.Number.Binary64

/-!
# Spans of time

Lengths of time in whole nanoseconds. A span is tenable with fewer than two to the
sixty-fourth seconds; multiplication by a count stops at the greatest tenable span.
-/

namespace GuestFleet.Time

open Number (Binary64)

/-- A length of time. -/
structure Span where
  nanoseconds : Nat
deriving DecidableEq, Repr, Inhabited

namespace Span

/-- The nanoseconds of a second. -/
def second : Nat := 1000000000

/-- So many seconds. -/
def ofSeconds (seconds : Nat) : Span := ⟨seconds * second⟩

/-- So many milliseconds. -/
def ofMilliseconds (milliseconds : Nat) : Span := ⟨milliseconds * 1000000⟩

/-- No time at all. -/
def zero : Span := ⟨0⟩

/-- The greatest tenable span. -/
def greatest : Span := ⟨0x10000000000000000 * second - 1⟩

/-- The span is no longer than the greatest one. -/
def isTenable (span : Span) : Bool := decide (span.nanoseconds ≤ greatest.nanoseconds)

/-- The whole seconds of a span. -/
def seconds (span : Span) : Nat := span.nanoseconds / second

/-- The nanoseconds beyond the whole seconds. -/
def fraction (span : Span) : Nat := span.nanoseconds % second

/-- The span is empty. -/
def isZero (span : Span) : Bool := span.nanoseconds == 0

/-- The shorter of two spans. -/
def shorter (a b : Span) : Span := ⟨min a.nanoseconds b.nanoseconds⟩

/-- The span so many times over, at most the greatest span. -/
def times (span : Span) (factor : Nat) : Span :=
  shorter ⟨span.nanoseconds * factor⟩ greatest

/-- Both spans one after the other. -/
def plus (a b : Span) : Span := ⟨a.nanoseconds + b.nanoseconds⟩

/-- The least count of milliseconds that is no shorter. -/
def milliseconds (span : Span) : Nat := (span.nanoseconds + 999999) / 1000000

/-- The longest pause: thirty years of 365 days. -/
def longestPause : Span := ofSeconds (30 * 365 * 86400)

/-- The milliseconds that a pause of this length takes, which are bounded. -/
def pauseMilliseconds (span : Span) : Nat := (shorter span longestPause).milliseconds

/-- The nearest machine number of seconds. -/
def toFloat (span : Span) : Float :=
  Float.ofNat span.seconds + Float.ofNat span.fraction / 1000000000.0

/-- The span of a finite number of seconds that is not negative, to the nearest
nanosecond. -/
def ofBinary64 (seconds : Binary64) : Span := ⟨seconds.roundedTimes second⟩

/-- The span scaled by a finite factor that is not negative. -/
def scaled (span : Span) (factor : Float) : Span := ofBinary64 (.ofFloat (factor * span.toFloat))

end Span

end GuestFleet.Time
