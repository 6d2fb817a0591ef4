import GuestFleet.Reconcile.Retry
import Mathlib.Data.ENat.Lattice

/-!
# Attempts

How often an operation is tried, and after which pauses. The operation is one whose calls have
outcomes given beforehand, without end, in surroundings that note every call and every pause. It is
called up to the first outcome that is good or final, or until no retry is left, and what the last
call came to is the result.
-/

namespace GuestFleet.RetryPolicy

open Time (Span)

variable {α : Type}

/-! ## A rehearsal -/

/-- Something that happens while an operation is tried. -/
inductive Act where
  | call
  | pause (span : Span)
deriving DecidableEq, Repr

/-- Surroundings that note what happens, and break down at a pause that is longer than is
tenable. -/
abbrev Rehearsal := StateT (List Act) Option

instance : Pauses Rehearsal :=
  ⟨fun span acts => if span.isTenable then some ((), acts ++ [.pause span]) else none⟩

/-- The operation whose calls have the outcomes one after the other. -/
def scripted (outcomes : Nat -> Except Failure α) : ExceptT Failure Rehearsal α :=
  ExceptT.mk fun acts => some (outcomes (acts.count .call), acts ++ [.call])

/-- Trying again is of no use after the outcome. -/
def IsFinal : Except Failure α -> Prop
  | .ok _ => True
  | .error failure => failure.isRetryable = false

/-- The place of the first outcome that is final, if there is one. -/
noncomputable def firstFinal (outcomes : Nat -> Except Failure α) : ℕ∞ :=
  ⨅ i ∈ {i : Nat | IsFinal (outcomes i)}, (i : ℕ∞)

/-- A call, and so many retries, each after its pause; `first` is the number of the first. -/
def retrying (policy : RetryPolicy) (resource scope : String) (first retries : Nat) : List Act :=
  .call :: (List.range' first retries).flatMap fun i =>
    [.pause (policy.backoff i resource scope), .call]

/-- The pauses among what happened. -/
def pauses (acts : List Act) : List Span :=
  acts.filterMap fun
    | .call => none
    | .pause span => some span

/-! ## Pauses -/

/-- Without jitter the pause is the nominal delay, whoever pauses. -/
theorem backoff_unspread {policy : RetryPolicy} (unspread : policy.jitter.isAtMostZero = true)
    (retry : Nat) (resource scope : String) :
    policy.backoff retry resource scope = policy.nominal retry := by
  rw [backoff, unspread, Bool.or_true, if_pos rfl]

/-- Delays that are not spread are tenable: doubling stops at the greatest span. -/
theorem backoff_isTenable {policy : RetryPolicy} (unspread : policy.jitter.isAtMostZero = true)
    (retry : Nat) (resource scope : String) :
    (policy.backoff retry resource scope).isTenable = true := by
  rw [backoff_unspread unspread, Span.isTenable, decide_eq_true_eq]
  calc (policy.nominal retry).nanoseconds
      ≤ (policy.baseDelay.times (Nat.pow 2 (min (retry - 1) 16))).nanoseconds := Nat.min_le_left _ _
    _ ≤ Span.greatest.nanoseconds := Nat.min_le_right _ _

/-- There is one call more than there are retries. -/
theorem count_call_retrying (policy : RetryPolicy) (resource scope : String)
    (first retries : Nat) :
    (policy.retrying resource scope first retries).count .call = retries + 1 := by
  rw [retrying, List.count_cons_self, List.count_flatMap]
  simp [Function.comp_def]

/-- The pauses are the delays of the retries, in order. -/
theorem pauses_retrying (policy : RetryPolicy) (resource scope : String) (first retries : Nat) :
    pauses (policy.retrying resource scope first retries) =
      (List.range' first retries).map fun i => policy.backoff i resource scope := by
  rw [retrying, pauses, List.filterMap_cons_none rfl, List.filterMap_flatMap]
  exact List.flatMap_pure_eq_map _ _

/-- The first retry comes after the first call and its pause. -/
theorem retrying_succ (policy : RetryPolicy) (resource scope : String) (first retries : Nat) :
    policy.retrying resource scope first (retries + 1) =
      .call :: .pause (policy.backoff first resource scope) ::
        policy.retrying resource scope (first + 1) retries := by
  rw [retrying, List.range'_succ, List.flatMap_cons]
  rfl

/-! ## Runs -/

section

variable {policy : RetryPolicy} {resource scope : String} {outcomes : Nat -> Except Failure α}

/-- What a try with retries left makes of the outcome of its call. -/
theorem tryAgain_succ (left tried : Nat) (acts : List Act) :
    (policy.tryAgain resource scope (scripted outcomes) (left + 1) tried).run.run acts =
      match outcomes (acts.count .call) with
      | .ok value => some (.ok value, acts ++ [.call])
      | .error failure =>
        if failure.isRetryable then
          if (policy.backoff tried resource scope).isTenable then
            (policy.tryAgain resource scope (scripted outcomes) left (tried + 1)).run.run
              (acts ++ [.call] ++ [.pause (policy.backoff tried resource scope)])
          else none
        else some (.error failure, acts ++ [.call]) := by
  rw [tryAgain]
  show (match outcomes (acts.count .call) with
    | .ok value => _
    | .error failure => _ : Rehearsal (Except Failure α)) (acts ++ [.call]) = _
  cases outcomes (acts.count .call) with
  | ok value => rfl
  | error failure =>
    cases retryable : failure.isRetryable with
    | false => simp only [retryable]; rfl
    | true =>
      simp only [retryable, if_true]
      show Option.bind (if _ then _ else none) _ = _
      split_ifs <;> rfl

/-- A final outcome ends the tries. -/
theorem tryAgain_final {acts : List Act} (final : IsFinal (outcomes (acts.count .call)))
    (left tried : Nat) :
    (policy.tryAgain resource scope (scripted outcomes) left tried).run.run acts =
      some (outcomes (acts.count .call), acts ++ [.call]) := by
  cases left with
  | zero => rfl
  | succ left =>
    rw [tryAgain_succ]
    cases outcome : outcomes (acts.count .call) with
    | ok value => rfl
    | error failure =>
      rw [outcome] at final
      have spent : failure.isRetryable = false := final
      simp only [spent, if_neg Bool.false_ne_true]

/-- After any other outcome there is a pause, and the operation is tried again. -/
theorem tryAgain_passing {acts : List Act} (passing : ¬ IsFinal (outcomes (acts.count .call)))
    {tried : Nat} (tenable : (policy.backoff tried resource scope).isTenable = true)
    (left : Nat) :
    (policy.tryAgain resource scope (scripted outcomes) (left + 1) tried).run.run acts =
      (policy.tryAgain resource scope (scripted outcomes) left (tried + 1)).run.run
        (acts ++ [.call, .pause (policy.backoff tried resource scope)]) := by
  rw [tryAgain_succ]
  cases outcome : outcomes (acts.count .call) with
  | ok value => exact absurd (outcome ▸ trivial) passing
  | error failure =>
    rw [outcome] at passing
    have retryable : failure.isRetryable = true := Bool.not_eq_false _ ▸ passing
    simp only [retryable, tenable, if_true, List.append_assoc, List.singleton_append]

/-- The tries after some calls. The induction is on the retries that are left; the number of the
next retry is one more than that of the calls so far. -/
theorem tryAgain_run {left : Nat} {acts : List Act}
    (tenable : ∀ i, acts.count .call < i -> i ≤ acts.count .call + left ->
      (policy.backoff i resource scope).isTenable = true) :
    ∃ retries ≤ left,
      (retries = left ∨ IsFinal (outcomes (acts.count .call + retries))) ∧
      (∀ i < retries, ¬ IsFinal (outcomes (acts.count .call + i))) ∧
      (policy.tryAgain resource scope (scripted outcomes) left
          (acts.count .call + 1)).run.run acts =
        some (outcomes (acts.count .call + retries),
          acts ++ policy.retrying resource scope (acts.count .call + 1) retries) := by
  induction left generalizing acts with
  | zero => exact ⟨0, Nat.le_refl 0, .inl rfl, fun i lt => absurd lt (Nat.not_lt_zero i), rfl⟩
  | succ left ih =>
    by_cases final : IsFinal (outcomes (acts.count .call))
    · refine ⟨0, Nat.zero_le _, .inr final, fun i lt => absurd lt (Nat.not_lt_zero i), ?_⟩
      exact tryAgain_final final _ _
    · have here := tenable (acts.count .call + 1) (Nat.lt_succ_self _) (by omega)
      let more : List Act := [.call, .pause (policy.backoff (acts.count .call + 1) resource scope)]
      have count : (acts ++ more).count .call = acts.count .call + 1 := by
        rw [List.count_append]
        rfl
      obtain ⟨retries, few, stops, before, run⟩ := @ih (acts ++ more) fun i above within =>
        tenable i (by omega) (by omega)
      rw [count] at stops before run
      refine ⟨retries + 1, by omega, ?_, ?_, ?_⟩
      · rcases stops with rfl | isFinal
        · exact .inl rfl
        · refine .inr ?_
          rwa [← Nat.add_assoc, Nat.add_right_comm]
      · intro i lt
        cases i with
        | zero => exact final
        | succ i =>
          rw [← Nat.add_assoc, Nat.add_right_comm]
          exact before i (by omega)
      · rw [tryAgain_passing final here, run, retrying_succ, ← Nat.add_assoc, Nat.add_right_comm,
          List.append_assoc]
        rfl

/-- The last call is that with the first final outcome, or the last that is allowed. -/
theorem min_firstFinal {limit n : Nat} (le : n ≤ limit)
    (stops : n = limit ∨ IsFinal (outcomes n)) (before : ∀ i < n, ¬ IsFinal (outcomes i)) :
    (n : ℕ∞) = min (firstFinal outcomes) limit := by
  refine le_antisymm (le_min (le_iInf₂ fun i final => ?_) (Nat.cast_le.2 le)) ?_
  · exact Nat.cast_le.2 (Nat.le_of_not_lt fun lt => before i lt final)
  · rcases stops with rfl | final
    · exact min_le_right _ _
    · exact (min_le_left _ _).trans (iInf₂_le n final)

end

/-- A retried operation is called up to its first final outcome, but not more often than the retries
allow. Before the retry with a number it pauses for the delay with that number, and the last outcome
is the result. Delays that are not spread are always tenable. -/
theorem retry_attempts (policy : RetryPolicy) (resource scope : String)
    (outcomes : Nat -> Except Failure α)
    (tenable : policy.jitter.isAtMostZero = true ∨ ∀ i, 1 ≤ i -> i ≤ policy.maxRetries ->
      (policy.backoff i resource scope).isTenable = true) :
    ∃ (n : Nat) (acts : List Act), (n : ℕ∞) = min (firstFinal outcomes) policy.maxRetries ∧
      (policy.retry resource scope (scripted outcomes)).run.run [] = some (outcomes n, acts) ∧
      acts = policy.retrying resource scope 1 n ∧
      acts.count .call = n + 1 ∧
      pauses acts = (List.range' 1 n).map fun i => policy.backoff i resource scope := by
  have bounded : ∀ i, 0 < i -> i ≤ 0 + policy.maxRetries ->
      (policy.backoff i resource scope).isTenable = true := by
    intro i positive le
    rcases tenable with unspread | tenable
    · exact backoff_isTenable unspread i resource scope
    · exact tenable i positive (by omega)
  obtain ⟨n, le, stops, before, run⟩ := @tryAgain_run α policy resource scope outcomes _ [] bounded
  simp only [List.count_nil, Nat.zero_add] at stops before run
  exact ⟨n, _, min_firstFinal le stops before, run, rfl, count_call_retrying ..,
    pauses_retrying ..⟩

/-- An operation that is good at the last retry that is allowed. -/
theorem retry_attempts_last :
    let policy : RetryPolicy := ⟨2, .ofMilliseconds 200, .ofSeconds 5, ⟨0⟩⟩
    let outcomes : Nat -> Except Failure Nat := fun i =>
      if i < 2 then .error (.request (.status 503 "ServiceUnavailable" "etcd leader changed"))
      else .ok i
    policy.jitter.isAtMostZero = true ∧
      (policy.retry "namespace" "al9qy" (scripted outcomes)).run.run [] =
        some (.ok 2, [.call, .pause (.ofMilliseconds 200), .call, .pause (.ofMilliseconds 400),
          .call]) := by
  intro policy outcomes
  have unspread : policy.jitter.isAtMostZero = true := by decide
  obtain ⟨n, acts, isLast, run, rfl, -⟩ :=
    retry_attempts policy "namespace" "al9qy" outcomes (.inl unspread)
  have passing : ∀ i < 2, ¬ IsFinal (outcomes i) := by
    intro i few final
    have isOutcome : outcomes i =
        .error (.request (.status 503 "ServiceUnavailable" "etcd leader changed")) := if_pos few
    rw [isOutcome] at final
    exact absurd final (by decide : ¬ (true = false))
  have second : ((2 : Nat) : ℕ∞) = min (firstFinal outcomes) policy.maxRetries :=
    min_firstFinal (Nat.le_refl 2) (.inl rfl) passing
  obtain rfl : n = 2 := Nat.cast_injective (isLast.trans second.symm)
  have first : policy.nominal 1 = .ofMilliseconds 200 := by decide
  have doubled : policy.nominal 2 = .ofMilliseconds 400 := by decide
  rw [retrying_succ, retrying_succ, backoff_unspread unspread, backoff_unspread unspread, first,
    doubled] at run
  exact ⟨unspread, run⟩

end GuestFleet.RetryPolicy
