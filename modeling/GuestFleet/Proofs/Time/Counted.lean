import GuestFleet.Time.Span
import Mathlib.Order.Basic

/-!
# Spans that are counted in words

A tenable span fits two words, one for the seconds and one for the nanoseconds beyond them. In words
a multiplication carries from the nanoseconds to the seconds and has to stop where the seconds
overflow. It comes to the same as the multiplication of spans, which has no words.
-/

namespace GuestFleet.Time

/-- A span in words: whole seconds, and less than a second of nanoseconds. -/
structure Counted where
  seconds : UInt64
  nanos : UInt32
  nanos_lt : nanos.toNat < Span.second

namespace Counted

/-- The span that is counted. -/
def span (counted : Counted) : Span :=
  ⟨counted.seconds.toNat * Span.second + counted.nanos.toNat⟩

/-- As much as the words can hold. -/
def greatest : Counted := ⟨0xffffffffffffffff, 999999999, by decide⟩

/-- A span that is counted in words is tenable. -/
theorem isTenable_span (counted : Counted) : counted.span.isTenable = true := by
  have seconds := counted.seconds.toNat_lt
  have nanos := counted.nanos_lt
  rw [Span.isTenable, decide_eq_true_eq]
  simp only [Span.greatest, span, Span.second] at *
  omega

/-- The nanoseconds so many times over, in one word with what has to be carried. -/
def product (counted : Counted) (factor : UInt32) : UInt64 :=
  counted.nanos.toUInt64 * factor.toUInt64

/-- Two words of nanoseconds never overflow the word of their product. -/
theorem toNat_product (counted : Counted) (factor : UInt32) :
    (counted.product factor).toNat = counted.nanos.toNat * factor.toNat := by
  have bound := Nat.mul_lt_mul'' counted.nanos.toNat_lt factor.toNat_lt
  rw [product, UInt64.toNat_mul, UInt32.toNat_toUInt64, UInt32.toNat_toUInt64]
  exact Nat.mod_eq_of_lt (bound.trans_eq (by decide))

/-- The word for a second is as many nanoseconds. -/
theorem toNat_second : (1000000000 : UInt64).toNat = Span.second := by decide

/-- What is left beyond whole seconds fits a word of its own. -/
theorem toNat_remainder (product : UInt64) :
    (product % 1000000000).toUInt32.toNat = product.toNat % Span.second := by
  have below : product.toNat % Span.second < Span.second := Nat.mod_lt _ (by decide)
  have inWord : Span.second < 2 ^ 32 := by decide
  rw [UInt64.toNat_toUInt32, UInt64.toNat_mod, toNat_second]
  exact Nat.mod_eq_of_lt (Nat.lt_trans below inWord)

/-- The span so many times over, unless the seconds or what is carried to them overflow. -/
def times? (counted : Counted) (factor : UInt32) : Option Counted :=
  let product := counted.product factor
  if counted.seconds.toNat * factor.toNat + (product / 1000000000).toNat < UInt64.size then
    some {
      seconds := counted.seconds * factor.toUInt64 + product / 1000000000
      nanos := (product % 1000000000).toUInt32
      nanos_lt := by rw [toNat_remainder]; exact Nat.mod_lt _ (by decide) }
  else none

/-- The nanoseconds of a multiple are its carried seconds and what is left beyond them. -/
theorem nanoseconds_times (seconds nanos factor : Nat) :
    (seconds * Span.second + nanos) * factor =
      (seconds * factor + nanos * factor / Span.second) * Span.second +
        nanos * factor % Span.second := by
  have whole := Nat.div_add_mod' (nanos * factor) Span.second
  rw [Nat.add_mul, Nat.add_mul, Nat.add_assoc, whole, Nat.mul_right_comm]

/-- The seconds of a multiple, with what is carried to them. -/
def carried (counted : Counted) (factor : UInt32) : Nat :=
  counted.seconds.toNat * factor.toNat + counted.nanos.toNat * factor.toNat / Span.second

/-- What multiplication in words comes to. -/
theorem nanoseconds_times? (counted : Counted) (factor : UInt32) :
    ((counted.times? factor).getD greatest).span.nanoseconds =
      if counted.carried factor < UInt64.size then
        counted.carried factor * Span.second + counted.nanos.toNat * factor.toNat % Span.second
      else Span.greatest.nanoseconds := by
  have carry : (counted.product factor / 1000000000).toNat =
      counted.nanos.toNat * factor.toNat / Span.second := by
    rw [UInt64.toNat_div, toNat_product, toNat_second]
  rw [times?, carry, carried]
  split_ifs with fits
  · have seconds : (counted.seconds * factor.toUInt64 +
        counted.product factor / 1000000000).toNat = counted.carried factor := by
      rw [UInt64.toNat_add, UInt64.toNat_mul, UInt32.toNat_toUInt64, Nat.mod_add_mod, carry]
      exact Nat.mod_eq_of_lt fits
    rw [Option.getD_some, span, seconds, toNat_remainder, toNat_product, carried]
  · rfl

/-- Multiplication in words, with the greatest span where they overflow, is that of spans. -/
theorem span_times (counted : Counted) (factor : UInt32) :
    ((counted.times? factor).getD greatest).span = counted.span.times factor.toNat := by
  rw [Span.mk.injEq, nanoseconds_times?, Span.times, Span.shorter, span, nanoseconds_times,
    ← carried]
  have small : counted.nanos.toNat * factor.toNat % Span.second < Span.second :=
    Nat.mod_lt _ (by decide)
  have limit : Span.greatest.nanoseconds + 1 = UInt64.size * Span.second := by decide
  show _ = min (counted.carried factor * Span.second +
    counted.nanos.toNat * factor.toNat % Span.second) Span.greatest.nanoseconds
  split_ifs with fits
  · have below : (counted.carried factor + 1) * Span.second ≤ UInt64.size * Span.second :=
      Nat.mul_le_mul_right _ fits
    rw [Nat.succ_mul] at below
    exact (Nat.min_eq_left (by omega)).symm
  · have above : UInt64.size * Span.second ≤ counted.carried factor * Span.second :=
      Nat.mul_le_mul_right _ (Nat.le_of_not_lt fits)
    exact (Nat.min_eq_right (by omega)).symm

/-! ## Comparison -/

/-- The shorter one, by the seconds first. -/
def shorter (a b : Counted) : Counted :=
  if a.seconds < b.seconds ∨ a.seconds = b.seconds ∧ a.nanos ≤ b.nanos then a else b

/-- The shorter one in words is the shorter span. -/
theorem span_shorter (a b : Counted) : (a.shorter b).span = a.span.shorter b.span := by
  have inA := a.nanos_lt
  have inB := b.nanos_lt
  rw [shorter, Span.shorter]
  simp only [span, Span.second, UInt64.lt_iff_toNat_lt, ← UInt64.toNat_inj,
    UInt32.le_iff_toNat_le] at *
  split_ifs with first
  · exact congrArg Span.mk (Nat.min_eq_left (by omega)).symm
  · exact congrArg Span.mk (Nat.min_eq_right (by omega)).symm

end Counted

end GuestFleet.Time
