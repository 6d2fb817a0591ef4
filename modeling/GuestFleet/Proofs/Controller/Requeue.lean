import GuestFleet.Controller.Turn
import GuestFleet.Proofs.Cluster.Valid
import GuestFleet.Proofs.Entries
import Mathlib.Data.List.Induction

/-!
# Failures in a row

What a controller remembers of an object is how often in a row the turns on it failed in a way that
may pass. Turns on other objects do not matter for it. After such a failure the controller comes
back later with every failure, and after another one it waits for a change.
-/

namespace GuestFleet

open Controller (Action FailureCounts failureDelay)
open Time (Span)

variable {α : Type}

/-! ## Delays -/

/-- The seconds after which an object is looked at again when so many turns in a row failed. -/
def requeueSeconds (failures : Nat) : Nat := min (30 * 2 ^ (failures - 1)) 600

/-- Doubling five times at most is enough, since the delay is cut at 600 seconds before that. -/
theorem failureDelay_eq (failures : Nat) :
    failureDelay failures = .ofSeconds (requeueSeconds failures) := by
  have doubled : Nat.pow 2 (min (failures - 1) 5) = 2 ^ (failures - 1) ∨
      Nat.pow 2 (min (failures - 1) 5) = 32 ∧ 32 ≤ 2 ^ (failures - 1) := by
    rcases Nat.le_total (failures - 1) 5 with few | many
    · rw [Nat.min_eq_left few]
      exact .inl rfl
    · rw [Nat.min_eq_right many]
      have cut : 2 ^ 5 ≤ 2 ^ (failures - 1) := Nat.pow_le_pow_right Nat.two_pos many
      exact .inr ⟨rfl, cut⟩
  have bounded : Nat.pow 2 (min (failures - 1) 5) ≤ 2 ^ 5 :=
    Nat.pow_le_pow_right Nat.two_pos (Nat.min_le_right _ _)
  rw [failureDelay, Span.ofSeconds, Span.ofSeconds, Span.ofSeconds, Span.times, Span.shorter,
    Span.shorter, Span.mk.injEq]
  simp only [Span.greatest, Span.second, requeueSeconds]
  generalize Nat.pow 2 (min (failures - 1) 5) = capped at doubled bounded
  generalize 2 ^ (failures - 1) = exact at doubled
  omega

/-- More failures never shorten the wait. -/
theorem requeueSeconds_mono {fewer failures : Nat} (le : fewer ≤ failures) :
    requeueSeconds fewer ≤ requeueSeconds failures := by
  have grown : 2 ^ (fewer - 1) ≤ 2 ^ (failures - 1) :=
    Nat.pow_le_pow_right (by decide) (Nat.sub_le_sub_right le 1)
  unfold requeueSeconds
  omega

/-- A wait is half a minute at least and ten minutes at most. -/
theorem requeueSeconds_bounds (failures : Nat) :
    30 ≤ requeueSeconds failures ∧ requeueSeconds failures ≤ 600 := by
  have positive : 0 < 2 ^ (failures - 1) := Nat.pow_pos (by decide)
  unfold requeueSeconds
  omega

/-! ## Turns -/

/-- A turn of a controller that has ended. -/
structure EndedTurn (α : Type) where
  object : α
  result : Except Failure Action

/-- The turn failed, but not for good. -/
def EndedTurn.mayPass (turn : EndedTurn α) : Bool :=
  match turn.result with
  | .ok _ => false
  | .error failure => failure.isRetryable

namespace Controller

/-- What a controller remembers after some turns. -/
def counted (controller : Controller α) (turns : List (EndedTurn α)) : FailureCounts :=
  turns.foldl (fun counts turn => (controller.decide counts turn.object (some turn.result)).2) []

/-- What a controller does about a failure that comes after some turns. -/
def answer (controller : Controller α) (turns : List (EndedTurn α)) (object : α)
    (failure : Failure) : Action :=
  (controller.decide (controller.counted turns) object (some (.error failure))).1

/-- The turns on what is counted under a key. -/
def turnsOn (controller : Controller α) (key : String) (turns : List (EndedTurn α)) :
    List (EndedTurn α) :=
  turns.filter fun turn => controller.key turn.object == key

/-- How many of the latest turns under a key failed in a row, none of them for good. -/
def streak (controller : Controller α) (key : String) (turns : List (EndedTurn α)) : Nat :=
  ((controller.turnsOn key turns).reverse.takeWhile EndedTurn.mayPass).length

variable {controller : Controller α}

/-- The turns on a key are those of earlier turns and then those of later ones. -/
theorem turnsOn_append (key : String) (turns more : List (EndedTurn α)) :
    controller.turnsOn key (turns ++ more) =
      controller.turnsOn key turns ++ controller.turnsOn key more :=
  List.filter_append _ _

/-- A turn on a key is the first of the turns on it. -/
theorem turnsOn_cons {key : String} {turn : EndedTurn α} (isOn : controller.key turn.object = key)
    (more : List (EndedTurn α)) :
    controller.turnsOn key (turn :: more) = turn :: controller.turnsOn key more :=
  List.filter_cons_of_pos (beq_iff_eq.2 isOn)

/-- Failures that may pass make a streak longer, whatever other turns are between them. -/
theorem streak_append {key : String} {more : List (EndedTurn α)}
    (passing : ∀ turn ∈ controller.turnsOn key more, turn.mayPass = true)
    (turns : List (EndedTurn α)) :
    controller.streak key (turns ++ more) =
      (controller.turnsOn key more).length + controller.streak key turns := by
  have all : ∀ turn ∈ (controller.turnsOn key more).reverse, turn.mayPass = true :=
    fun turn mem => passing turn (List.mem_reverse.1 mem)
  rw [streak, turnsOn_append, List.reverse_append, List.takeWhile_append_of_pos all,
    List.length_append, List.length_reverse, streak]

/-- A turn that ends a streak. -/
theorem streak_end {key : String} {turn : EndedTurn α}
    (isOn : controller.key turn.object = key) (isEnd : turn.mayPass = false)
    (turns : List (EndedTurn α)) : controller.streak key (turns ++ [turn]) = 0 := by
  have latest : controller.turnsOn key [turn] = [turn] := turnsOn_cons isOn []
  rw [streak, turnsOn_append, latest, List.reverse_append, List.reverse_singleton,
    List.singleton_append, List.takeWhile_cons, isEnd]
  rfl

/-- A failure that may pass adds one to the streak of its key. -/
theorem streak_failed {key : String} {turn : EndedTurn α}
    (isOn : controller.key turn.object = key) (passing : turn.mayPass = true)
    (turns : List (EndedTurn α)) :
    controller.streak key (turns ++ [turn]) = controller.streak key turns + 1 := by
  have latest : controller.turnsOn key [turn] = [turn] := turnsOn_cons isOn []
  rw [streak_append (by rw [latest]; exact List.forall_mem_singleton.2 passing), latest,
    List.length_singleton, Nat.add_comm]

/-- A turn on another key leaves a streak as it is. -/
theorem streak_elsewhere {key : String} {turn : EndedTurn α}
    (elsewhere : controller.key turn.object ≠ key) (turns : List (EndedTurn α)) :
    controller.streak key (turns ++ [turn]) = controller.streak key turns := by
  have none : controller.turnsOn key [turn] = [] :=
    List.filter_cons_of_neg (by simpa using elsewhere)
  rw [streak, turnsOn_append, none, List.append_nil, streak]

/-! ## Counts -/

/-- The counts are those of the streaks after some turns: there is one for each streak and no
other one. -/
structure Tallies (controller : Controller α) (turns : List (EndedTurn α))
    (counts : FailureCounts) : Prop where
  single : (counts.map Prod.fst).Nodup
  mem_iff : ∀ key count, (key, count) ∈ counts <->
    count = controller.streak key turns ∧ 0 < count

/-- The count of a key is the length of its streak, which may be nothing. -/
theorem Tallies.count {turns : List (EndedTurn α)} {counts : FailureCounts}
    (tallies : controller.Tallies turns counts) (key : String) :
    counts.count key = controller.streak key turns := by
  rw [FailureCounts.count]
  cases found : List.lookup key counts with
  | some count => exact ((tallies.mem_iff key count).1 (Entries.mem_of_lookup found)).1
  | none =>
    by_contra streaked
    have mem := (tallies.mem_iff key _).2 ⟨rfl, Nat.pos_of_ne_zero (Ne.symm streaked)⟩
    rw [Entries.lookup_of_mem tallies.single mem] at found
    cases found

/-- A success forgets the count of its key and no other. -/
theorem mem_succeeded {counts : FailureCounts} {key other : String} {count : Nat} :
    (other, count) ∈ counts.succeeded key <-> (other, count) ∈ counts ∧ other ≠ key := by
  rw [FailureCounts.succeeded, List.mem_filter, bne_iff_ne]

/-- Forgetting a count leaves every key counted once. -/
theorem nodup_succeeded {counts : FailureCounts} (single : (counts.map Prod.fst).Nodup)
    (key : String) : ((counts.succeeded key).map Prod.fst).Nodup :=
  single.sublist (List.filter_sublist.map Prod.fst)

/-- A turn that ends a streak takes its count away. -/
theorem Tallies.succeeded {turns : List (EndedTurn α)} {counts : FailureCounts}
    (tallies : controller.Tallies turns counts) {turn : EndedTurn α}
    (isEnd : turn.mayPass = false) :
    controller.Tallies (turns ++ [turn]) (counts.succeeded (controller.key turn.object)) := by
  refine ⟨nodup_succeeded tallies.single _, fun key count => ?_⟩
  rw [mem_succeeded, tallies.mem_iff]
  by_cases isOn : controller.key turn.object = key
  · rw [streak_end isOn isEnd]
    constructor
    · rintro ⟨-, other⟩
      exact absurd isOn.symm other
    · rintro ⟨rfl, positive⟩
      exact absurd positive (Nat.lt_irrefl 0)
  · rw [streak_elsewhere isOn]
    exact ⟨And.left, fun entry => ⟨entry, Ne.symm isOn⟩⟩

/-- A failure that may pass adds one to the count of its key. -/
theorem Tallies.failed {turns : List (EndedTurn α)} {counts : FailureCounts}
    (tallies : controller.Tallies turns counts) {turn : EndedTurn α}
    (passing : turn.mayPass = true) :
    controller.Tallies (turns ++ [turn])
      ((controller.key turn.object, counts.count (controller.key turn.object) + 1) ::
        counts.succeeded (controller.key turn.object)) := by
  constructor
  · rw [List.map_cons, List.nodup_cons]
    refine ⟨fun again => ?_, nodup_succeeded tallies.single _⟩
    obtain ⟨entry, mem, same⟩ := List.mem_map.1 again
    exact (mem_succeeded.1 mem).2 same
  · intro key count
    rw [List.mem_cons, Prod.mk.injEq, mem_succeeded, tallies.mem_iff, tallies.count]
    by_cases isOn : controller.key turn.object = key
    · rw [streak_failed isOn passing, isOn]
      constructor
      · rintro (⟨-, rfl⟩ | ⟨-, other⟩)
        · exact ⟨rfl, Nat.succ_pos _⟩
        · exact absurd rfl other
      · rintro ⟨isCount, -⟩
        exact .inl ⟨rfl, isCount⟩
    · rw [streak_elsewhere isOn]
      constructor
      · rintro (⟨same, -⟩ | ⟨entry, -⟩)
        · exact absurd same.symm isOn
        · exact entry
      · exact fun entry => .inr ⟨entry, Ne.symm isOn⟩

/-- Whatever a turn comes to, the counts are those of the streaks after it. -/
theorem Tallies.decide {turns : List (EndedTurn α)} {counts : FailureCounts}
    (tallies : controller.Tallies turns counts) (turn : EndedTurn α) :
    controller.Tallies (turns ++ [turn])
      (controller.decide counts turn.object (some turn.result)).2 := by
  obtain ⟨object, result⟩ := turn
  cases result with
  | ok action => exact tallies.succeeded rfl
  | error failure =>
    rw [Controller.decide, FailureCounts.failed]
    split_ifs with retryable
    · exact tallies.failed retryable
    · exact tallies.succeeded (Bool.eq_false_iff.2 retryable)

/-- After any turns the counts are those of the streaks. -/
theorem tallies_counted (controller : Controller α) (turns : List (EndedTurn α)) :
    controller.Tallies turns (controller.counted turns) := by
  induction turns using List.reverseRecOn with
  | nil =>
    refine ⟨List.nodup_nil, fun key count => ⟨fun mem => ?_, ?_⟩⟩
    · cases mem
    · rintro ⟨rfl, positive⟩
      exact absurd positive (Nat.lt_irrefl 0)
  | append_singleton turns turn ih =>
    rw [counted, List.foldl_append]
    exact ih.decide turn

/-! ## Answers -/

/-- What a controller answers to a failure depends on the streak of its key alone. -/
theorem answer_eq (controller : Controller α) (turns : List (EndedTurn α)) (object : α)
    (failure : Failure) :
    controller.answer turns object failure =
      if failure.isRetryable then
        .requeue (.ofSeconds (requeueSeconds (controller.streak (controller.key object) turns + 1)))
      else .awaitChange := by
  have count := (controller.tallies_counted turns).count (controller.key object)
  rw [answer, decide, FailureCounts.failed]
  split_ifs
  · rw [← failureDelay_eq, ← count]
  · rfl

/-- Turns on other objects do not matter for a streak. -/
theorem streak_turnsOn (key : String) (turns : List (EndedTurn α)) :
    controller.streak key (controller.turnsOn key turns) = controller.streak key turns := by
  have again : controller.turnsOn key (controller.turnsOn key turns) =
      controller.turnsOn key turns := by
    simp only [turnsOn, List.filter_filter, Bool.and_self]
  rw [streak, again, streak]

/-- What a controller remembers and answers after some turns is told by the streaks of its keys. -/
structure GoesByStreaks (controller : Controller α) (turns : List (EndedTurn α)) : Prop where
  /-- A key has a count if, and only if, it has a streak, and then the count is its length. -/
  remembered : ∀ key count, (key, count) ∈ controller.counted turns <->
    count = controller.streak key turns ∧ 0 < count
  /-- No key has two counts. -/
  single : ((controller.counted turns).map Prod.fst).Nodup
  /-- What is remembered under a key comes from the turns under that key. -/
  apart : ∀ key count, (key, count) ∈ controller.counted turns <->
    (key, count) ∈ controller.counted (controller.turnsOn key turns)
  /-- So does the answer to a failure. -/
  answersApart : ∀ object failure, controller.answer turns object failure =
    controller.answer (controller.turnsOn (controller.key object) turns) object failure
  /-- A failure for good is answered by waiting. -/
  waits : ∀ object failure, failure.isRetryable = false ->
    controller.answer turns object failure = .awaitChange
  /-- The first failure of a streak is answered by 30 seconds, and every further one by twice as
  many, up to 600. -/
  returns : ∀ object failure, failure.isRetryable = true -> ∃ failures, 0 < failures ∧
    failures = controller.streak (controller.key object) (turns ++ [⟨object, .error failure⟩]) ∧
    controller.answer turns object failure =
      .requeue (.ofSeconds (min (30 * 2 ^ (failures - 1)) 600))
  /-- Later failures of a streak are answered by no fewer seconds, from 30 to 600. -/
  grows : ∀ object failure more other later, failure.isRetryable = true ->
    later.isRetryable = true -> controller.key other = controller.key object ->
    (∀ turn ∈ controller.turnsOn (controller.key object) more, turn.mayPass = true) ->
    ∃ first second, controller.answer turns object failure = .requeue (.ofSeconds first) ∧
      controller.answer (turns ++ ⟨object, .error failure⟩ :: more) other later =
        .requeue (.ofSeconds second) ∧
      30 ≤ first ∧ first ≤ second ∧ second ≤ 600

/-- The answers to two failures of one streak. -/
theorem answer_grows {turns more : List (EndedTurn α)} {object other : α}
    {failure later : Failure} (passing : failure.isRetryable = true)
    (passingLater : later.isRetryable = true)
    (sameKey : controller.key other = controller.key object)
    (between : ∀ turn ∈ controller.turnsOn (controller.key object) more, turn.mayPass = true) :
    ∃ first second, controller.answer turns object failure = .requeue (.ofSeconds first) ∧
      controller.answer (turns ++ ⟨object, .error failure⟩ :: more) other later =
        .requeue (.ofSeconds second) ∧
      30 ≤ first ∧ first ≤ second ∧ second ≤ 600 := by
  have isOn : controller.turnsOn (controller.key object) (⟨object, .error failure⟩ :: more) =
      ⟨object, .error failure⟩ :: controller.turnsOn (controller.key object) more :=
    turnsOn_cons rfl more
  have all : ∀ turn ∈ controller.turnsOn (controller.key object)
      (⟨object, .error failure⟩ :: more), turn.mayPass = true := by
    rw [isOn]
    exact List.forall_mem_cons.2 ⟨passing, between⟩
  refine ⟨_, _, (controller.answer_eq turns object failure).trans (if_pos passing),
    (controller.answer_eq _ other later).trans (if_pos passingLater),
    (requeueSeconds_bounds _).1, requeueSeconds_mono ?_, (requeueSeconds_bounds _).2⟩
  rw [sameKey, streak_append all]
  omega

/-- After any turns on any objects, a controller remembers the streak of each key and answers a
failure by it. -/
theorem goesByStreaks (controller : Controller α) (turns : List (EndedTurn α)) :
    controller.GoesByStreaks turns where
  remembered := (controller.tallies_counted turns).mem_iff
  single := (controller.tallies_counted turns).single
  apart key count := by
    rw [(controller.tallies_counted turns).mem_iff,
      (controller.tallies_counted (controller.turnsOn key turns)).mem_iff, streak_turnsOn]
  answersApart object failure := by rw [answer_eq, answer_eq, streak_turnsOn]
  waits object failure final := by rw [answer_eq, final, if_neg Bool.false_ne_true]
  returns object failure passing := by
    let turn : EndedTurn α := ⟨object, .error failure⟩
    have mayPass : turn.mayPass = true := passing
    have longer : controller.streak (controller.key object) (turns ++ [turn]) =
        controller.streak (controller.key object) turns + 1 := streak_failed rfl mayPass turns
    refine ⟨_, Nat.succ_pos _, longer.symm, ?_⟩
    rw [answer_eq, passing, if_pos rfl, requeueSeconds]
  grows _ _ _ _ _ passing passingLater sameKey between :=
    answer_grows passing passingLater sameKey between

/-- Two clusters in turn, of which one recovers: the other one's second failure is answered by a
minute, and a failure of it that cannot pass by waiting. -/
theorem goesByStreaks_pair :
    let overloaded : Failure := .request (.status 503 "ServiceUnavailable" "etcd leader changed")
    let turns : List (EndedTurn Cluster) :=
      [⟨smallCluster "al9qy", .error overloaded⟩, ⟨smallCluster "b2xyz", .error overloaded⟩,
        ⟨smallCluster "b2xyz", .ok .awaitChange⟩]
    ("default/al9qy", 1) ∈ (clusters {}).counted turns ∧
      (∀ count, ("default/b2xyz", count) ∉ (clusters {}).counted turns) ∧
      (clusters {}).answer turns (smallCluster "al9qy") overloaded = .requeue (.ofSeconds 60) ∧
      (clusters {}).answer turns (smallCluster "al9qy") (.invalidVersionBundle "9.9.9") =
        .awaitChange := by
  intro overloaded turns
  have law := (clusters {}).goesByStreaks turns
  refine ⟨(law.remembered _ _).2 ⟨by decide, by decide⟩, fun count mem => ?_, ?_,
    law.waits _ _ (by decide)⟩
  · obtain ⟨isStreak, positive⟩ := (law.remembered _ _).1 mem
    have none : (clusters {}).streak "default/b2xyz" turns = 0 := by decide
    omega
  · obtain ⟨failures, -, isStreak, answered⟩ := law.returns (smallCluster "al9qy") overloaded rfl
    have second : failures = 2 := isStreak.trans (by decide)
    rw [answered, second]
    rfl

end Controller

end GuestFleet
