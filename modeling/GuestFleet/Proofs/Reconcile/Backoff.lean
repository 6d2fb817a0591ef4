import GuestFleet.Proofs.Reconcile.Attempts
import GuestFleet.Proofs.Time.Counted

/-!
# Delays that double

A delay that is not spread doubles from retry to retry and stops at the greatest delay. Words that
overflow on the way are never seen, because the greatest delay fits them. That the doubling itself
stops after sixteen times is seen only where the greatest delay is still farther away.
-/

namespace GuestFleet.RetryPolicy

open Number (Binary64)
open Time (Span Counted)

/-! ## Exact delays -/

/-- The greatest span hides behind the greatest delay. -/
theorem nominal_nanoseconds {policy : RetryPolicy} (tenable : policy.maxDelay.isTenable = true)
    (retry : Nat) :
    (policy.nominal retry).nanoseconds =
      min (policy.baseDelay.nanoseconds * 2 ^ min (retry - 1) 16) policy.maxDelay.nanoseconds := by
  rw [Span.isTenable, decide_eq_true_eq] at tenable
  show min (min (policy.baseDelay.nanoseconds * 2 ^ min (retry - 1) 16) Span.greatest.nanoseconds)
    policy.maxDelay.nanoseconds = _
  rw [min_assoc, min_eq_right tenable]

/-- From the seventeenth retry on sixteen doublings are enough, if they reach the greatest delay or
there is nothing to double. -/
theorem min_doubled {base longest retry : Nat} (late : 16 ≤ retry)
    (reached : longest ≤ base * 2 ^ 16 ∨ base = 0) :
    min (base * 2 ^ 16) longest = min (base * 2 ^ retry) longest := by
  rcases reached with reached | rfl
  · have further : base * 2 ^ 16 ≤ base * 2 ^ retry :=
      Nat.mul_le_mul_left _ (Nat.pow_le_pow_right (by decide) late)
    rw [min_eq_right reached, min_eq_right (reached.trans further)]
  · rw [Nat.zero_mul, Nat.zero_mul]

/-- Delays that double from a first one up to a longest one, retries counted from one. -/
structure DoublesUpTo (base longest : Span) (delay : Nat -> Span) : Prop where
  atMost : ∀ retry, (delay retry).nanoseconds ≤ longest.nanoseconds
  mono : ∀ early late, early ≤ late -> (delay early).nanoseconds ≤ (delay late).nanoseconds
  exact : ∀ retry, 1 ≤ retry ->
    (retry ≤ 17 ∨ longest.nanoseconds ≤ base.nanoseconds * 2 ^ 16 ∨ base = .zero) ->
    (delay retry).nanoseconds =
      min (base.nanoseconds * 2 ^ (retry - 1)) longest.nanoseconds

/-- The nominal delay doubles up to the greatest one, if that is tenable. -/
theorem doublesUpTo_nominal {policy : RetryPolicy} (tenable : policy.maxDelay.isTenable = true) :
    DoublesUpTo policy.baseDelay policy.maxDelay policy.nominal where
  atMost retry := by
    rw [nominal_nanoseconds tenable]
    exact min_le_right _ _
  mono early late le := by
    have fewer : min (early - 1) 16 ≤ min (late - 1) 16 :=
      min_le_min_right 16 (Nat.sub_le_sub_right le 1)
    rw [nominal_nanoseconds tenable, nominal_nanoseconds tenable]
    exact min_le_min_right _ (Nat.mul_le_mul_left _ (Nat.pow_le_pow_right (by decide) fewer))
  exact retry positive bounded := by
    rw [nominal_nanoseconds tenable]
    by_cases early : retry ≤ 17
    · rw [min_eq_left (by omega : retry - 1 ≤ 16)]
    · rw [min_eq_right (by omega : 16 ≤ retry - 1)]
      have reached := bounded.resolve_left early
      exact min_doubled (by omega) (reached.imp id (congrArg Span.nanoseconds))

/-! ## Delays in words -/

/-- The count of doublings before a retry, in a word. -/
def doublings (retry : UInt32) : UInt32 := min (if retry = 0 then 0 else retry - 1) 16

/-- The doublings in the word are those that the nominal delay counts. -/
theorem toNat_doublings (retry : UInt32) :
    (doublings retry).toNat = min (retry.toNat - 1) 16 := by
  rw [doublings, UInt32.toNat_min]
  congr 1
  split_ifs with first
  · rw [first]
    rfl
  · have positive : retry.toNat ≠ 0 := fun zero => first (UInt32.toNat_inj.1 zero)
    exact UInt32.toNat_sub_of_le _ _ (UInt32.le_iff_toNat_le.2 (Nat.one_le_iff_ne_zero.2 positive))

/-- Sixteen doublings do not shift the one out of its word. -/
theorem toNat_shift_doublings (retry : UInt32) :
    ((1 : UInt32) <<< doublings retry).toNat = 2 ^ min (retry.toNat - 1) 16 := by
  have few : min (retry.toNat - 1) 16 ≤ 16 := min_le_right _ _
  have inWord : 2 ^ min (retry.toNat - 1) 16 < 2 ^ 32 :=
    Nat.pow_lt_pow_right (by decide) (by omega)
  rw [UInt32.toNat_shiftLeft, toNat_doublings, Nat.mod_eq_of_lt (by omega : _ < 32),
    Nat.shiftLeft_eq]
  exact (congrArg (· % 2 ^ 32) (Nat.one_mul _)).trans (Nat.mod_eq_of_lt inWord)

/-- The delay before a retry as it is computed in words, where a product that overflows stands for
the greatest span. -/
def nominalInWords (base longest : Counted) (retry : UInt32) : Counted :=
  ((base.times? (1 <<< doublings retry)).getD .greatest).shorter longest

/-- The delay that is computed in words is the nominal one. -/
theorem span_nominalInWords (maxRetries : Nat) (base longest : Counted) (jitter : Binary64)
    (retry : UInt32) :
    (nominalInWords base longest retry).span =
      (RetryPolicy.mk maxRetries base.span longest.span jitter).nominal retry.toNat := by
  rw [nominalInWords, Counted.span_shorter, Counted.span_times, toNat_shift_doublings]
  rfl

/-- Delays that are not spread fit their words, are what words compute, never exceed the greatest
delay, never shrink from retry to retry, and are exact as long as doubling goes on or does not
matter any more. -/
theorem backoff_doubles (maxRetries : Nat) (base longest : Counted) {jitter : Binary64}
    (unspread : jitter.isAtMostZero = true) (resource scope : String) :
    let policy : RetryPolicy := ⟨maxRetries, base.span, longest.span, jitter⟩
    (∀ retry : UInt32, policy.backoff retry.toNat resource scope =
      (nominalInWords base longest retry).span) ∧
      (∀ retry, (policy.backoff retry resource scope).isTenable = true) ∧
      DoublesUpTo base.span longest.span fun retry => policy.backoff retry resource scope := by
  intro policy
  have nominal : ∀ retry, policy.backoff retry resource scope = policy.nominal retry :=
    fun retry => backoff_unspread unspread retry resource scope
  refine ⟨fun retry => ?_, fun retry => backoff_isTenable unspread retry resource scope, ?_⟩
  · rw [nominal, span_nominalInWords maxRetries base longest jitter]
  · have tenable : policy.maxDelay.isTenable = true := longest.isTenable_span
    simp only [nominal]
    exact doublesUpTo_nominal tenable

/-- From a first delay of a sixteenth of what the words hold, the product of the fifth retry
overflows, and the delay is the greatest one to the nanosecond. A zero spreads no delays, whatever
its sign. -/
theorem backoff_doubles_overflow :
    let base : Counted := ⟨0x1000000000000000, 999999999, by decide⟩
    let longest : Counted := ⟨0xffffffffffffffff, 999999998, by decide⟩
    let policy : RetryPolicy := ⟨3, base.span, longest.span, ⟨0x8000000000000000⟩⟩
    policy.jitter.isAtMostZero = true ∧ (base.times? (1 <<< doublings 5)).isNone = true ∧
      (policy.backoff 4 "configmap" "al9qy").nanoseconds = base.span.nanoseconds * 8 ∧
      (policy.backoff 5 "configmap" "al9qy").nanoseconds = longest.span.nanoseconds := by
  intro base longest policy
  have unspread : policy.jitter.isAtMostZero = true := by decide
  obtain ⟨-, -, delays⟩ := backoff_doubles 3 base longest unspread "configmap" "al9qy"
  refine ⟨unspread, by decide, ?_, ?_⟩
  · exact (delays.exact 4 (by decide) (.inl (by decide))).trans (by decide)
  · exact (delays.exact 5 (by decide) (.inl (by decide))).trans (by decide)

end GuestFleet.RetryPolicy
