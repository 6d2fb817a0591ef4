import Mathlib.Tactic.IntervalCases
import GuestFleet.Time.Instant

/-!
# Instants that are read back

The calendar that writing goes by and the one that reading goes by are the same, so that an instant
is read back from its text as long as its year has four digits.
-/

namespace GuestFleet.Time.Instant

/-! ## The calendar -/

/-- Every fourth year is a leap year, but of the hundredth ones only every fourth. -/
theorem isLeap_iff {year : Int} :
    isLeap year = true <-> year % 4 = 0 ∧ (year % 100 ≠ 0 ∨ year % 400 = 0) := by
  simp [isLeap]

/-- The months of a year have as many days as the year. -/
theorem daysToMonth_year (year : Int) :
    (daysToMonth year 13 : Int) = daysToYear (year + 1) - daysToYear year := by
  have months : daysToMonth year 13 = if isLeap year then 366 else 365 := by
    simp only [daysToMonth, monthLength]
    split_ifs <;> rfl
  rw [months, daysToYear, daysToYear]
  split_ifs with leap
  · rw [isLeap_iff] at leap
    omega
  · rw [isLeap_iff] at leap
    omega

/-- A month and a day that a year has. -/
structure IsDate (year : Int) (month day : Nat) : Prop where
  firstMonth : 1 ≤ month
  lastMonth : month ≤ 12
  firstDay : 1 ≤ day
  lastDay : day ≤ monthLength year month

/-- No month has more than 31 days. -/
theorem IsDate.day_le {year : Int} {month day : Nat} (isDate : IsDate year month day) :
    day ≤ 31 := by
  have lastDay := isDate.lastDay
  unfold monthLength at lastDay
  split at lastDay <;> first | omega | (split_ifs at lastDay <;> omega)

/-- Month by month, a day of the year is found in the month that it belongs to. The induction is on
the months that are left. -/
theorem monthAndDay_spec (year : Int) (fuel month day : Nat) (first : 1 ≤ month)
    (last : month + fuel ≤ 13)
    (inside : daysToMonth year month + day < daysToMonth year (month + fuel)) :
    ∃ m d, monthAndDay year fuel month day = (m, d) ∧ IsDate year m d ∧
      daysToMonth year m + d = daysToMonth year month + day + 1 := by
  induction fuel generalizing month day with
  | zero => exact absurd inside (by rw [Nat.add_zero]; omega)
  | succ fuel ih =>
    have next : daysToMonth year (month + 1) = daysToMonth year month + monthLength year month := by
      cases month with
      | zero => cases first
      | succ month => rfl
    rw [monthAndDay]
    by_cases here : day < monthLength year month
    · rw [if_pos here]
      exact ⟨month, day + 1, rfl, ⟨first, by omega, by omega, here⟩, by omega⟩
    · rw [if_neg here]
      have before : daysToMonth year (month + 1) + (day - monthLength year month) =
          daysToMonth year month + day := by omega
      obtain ⟨m, d, found, isDate, total⟩ := ih (month + 1) (day - monthLength year month)
        (by omega) (by omega) (by rw [before, Nat.add_assoc, Nat.add_comm 1]; exact inside)
      exact ⟨m, d, found, isDate, by rw [total, before]⟩

/-- A year starts within two days of where years of the same length would. -/
theorem daysToYear_near (year : Int) :
    146097 * year - 400 < 400 * daysToYear year ∧
      400 * daysToYear year < 146097 * year + 800 := by
  unfold daysToYear
  omega

/-- The year of a day. Equal years would make the first guess right; as it is, it is wrong by a
year at most. -/
theorem year_of_day (fromZero : Int) :
    let guess := fromZero * 400 / 146097
    let year := if fromZero < daysToYear guess then guess - 1
      else if fromZero ≥ daysToYear (guess + 1) then guess + 1 else guess
    daysToYear year ≤ fromZero ∧ fromZero < daysToYear (year + 1) := by
  intro guess year
  have near : 146097 * guess ≤ fromZero * 400 ∧ fromZero * 400 < 146097 * guess + 146097 := by
    simp only [guess]
    omega
  simp only [year]
  split_ifs with early late
  · have before := daysToYear_near (guess - 1)
    rw [Int.sub_add_cancel]
    exact ⟨by omega, early⟩
  · have after := daysToYear_near (guess + 1 + 1)
    exact ⟨late, by omega⟩
  · exact ⟨not_lt.1 early, not_le.1 late⟩

/-- A day that is in a year has a date in it. -/
theorem exists_date {year count : Int} (first : daysToYear year ≤ count + daysToYear 1970)
    (last : count + daysToYear 1970 < daysToYear (year + 1)) :
    ∃ month day, monthAndDay year 12 1 (count + daysToYear 1970 - daysToYear year).toNat =
        (month, day) ∧ IsDate year month day ∧ days year month day = count := by
  have length := daysToMonth_year year
  have start : daysToMonth year 1 = 0 := rfl
  obtain ⟨month, day, found, isDate, total⟩ := monthAndDay_spec year 12 1
    (count + daysToYear 1970 - daysToYear year).toNat (Nat.le_refl 1) (Nat.le_refl 13) (by
      show _ < daysToMonth year 13
      omega)
  refine ⟨month, day, found, isDate, ?_⟩
  rw [days]
  omega

/-- Every day has a date, and is the day of that date. -/
theorem civil_spec (count : Int) :
    ∃ year month day, civil count = (year, month, day) ∧ IsDate year month day ∧
      days year month day = count := by
  have bounds := year_of_day (count + daysToYear 1970)
  obtain ⟨month, day, found, isDate, same⟩ := exists_date bounds.1 bounds.2
  exact ⟨_, month, day, congrArg (Prod.mk _) found, isDate, same⟩

/-! ## Digits -/

/-- The character of a digit reads as that digit and is no blank. -/
theorem digitChar_spec {n : Nat} (small : n < 10) :
    n.digitChar.isDigit = true ∧ n.digitChar.toNat - 48 = n ∧
      Text.isBlank n.digitChar = false := by
  interval_cases n <;> decide

/-- The last digit stands behind the others, with zeros before them. -/
theorem padded_succ (width n : Nat) :
    (padded (width + 2) n).toList =
      (padded (width + 1) (n / 10)).toList ++ [(n % 10).digitChar] := by
  rw [padded, padded, String.toList_ofList, String.toList_ofList]
  by_cases one : n < 10
  · rw [Nat.toDigits_of_lt_base one, Nat.div_eq_of_lt one, Nat.mod_eq_of_lt one]
    exact congrArg (· ++ [n.digitChar]) List.replicate_succ'
  · rw [Nat.toDigits_of_base_le (by decide) (not_lt.1 one), List.length_append,
      List.length_singleton, ← List.append_assoc]
    congr 3
    omega

/-- A digit on its own. -/
theorem padded_one {n : Nat} (small : n < 10) : (padded 1 n).toList = [n.digitChar] := by
  rw [padded, String.toList_ofList, Nat.toDigits_of_lt_base small]
  rfl

/-- Two digits, with the tens first. -/
theorem padded_two {n : Nat} (small : n < 100) :
    (padded 2 n).toList = [(n / 10).digitChar, (n % 10).digitChar] := by
  rw [padded_succ, padded_one (by omega)]
  rfl

/-- Four digits, with the thousands first. -/
theorem padded_four {n : Nat} (small : n < 10000) :
    (padded 4 n).toList = [(n / 1000).digitChar, (n / 100 % 10).digitChar,
      (n / 10 % 10).digitChar, (n % 10).digitChar] := by
  have hundreds : n / 10 / 10 = n / 100 := Nat.div_div_eq_div_mul n 10 10
  have thousands : n / 100 / 10 = n / 1000 := Nat.div_div_eq_div_mul n 100 10
  rw [padded_succ, padded_succ, padded_succ, hundreds, thousands, padded_one (by omega)]
  rfl

/-! ## Reading what was written -/

/-- Digits are read as the number that they make up. -/
theorem number_two {n : Nat} (small : n < 100) (rest : List Char) :
    number 2 ((padded 2 n).toList ++ rest) = .ok (n, rest) := by
  obtain ⟨isTens, tens, -⟩ := digitChar_spec (by omega : n / 10 < 10)
  obtain ⟨isOnes, ones, -⟩ := digitChar_spec (by omega : n % 10 < 10)
  rw [padded_two small]
  have value : n / 10 * 10 + n % 10 = n := by omega
  simp [number, isTens, isOnes, tens, ones, value]
  omega

/-- Four digits are read as the number that they make up. -/
theorem number_four {n : Nat} (small : n < 10000) (rest : List Char) :
    number 4 ((padded 4 n).toList ++ rest) = .ok (n, rest) := by
  obtain ⟨isThousands, thousands, -⟩ := digitChar_spec (by omega : n / 1000 < 10)
  obtain ⟨isHundreds, hundreds, -⟩ := digitChar_spec (by omega : n / 100 % 10 < 10)
  obtain ⟨isTens, tens, -⟩ := digitChar_spec (by omega : n / 10 % 10 < 10)
  obtain ⟨isOnes, ones, -⟩ := digitChar_spec (by omega : n % 10 < 10)
  rw [padded_four small]
  have value : ((n / 1000 * 10 + n / 100 % 10) * 10 + n / 10 % 10) * 10 + n % 10 = n := by omega
  simp [number, isThousands, isHundreds, isTens, isOnes, thousands, hundreds, tens, ones, value]
  omega

/-- A field of two digits is read if it is within its bounds. -/
theorem field_two {low high n : Nat} (least : low ≤ n) (most : n ≤ high) (small : n < 100)
    (rest : List Char) : field 2 low high ((padded 2 n).toList ++ rest) = .ok (n, rest) := by
  obtain ⟨-, -, visible⟩ := digitChar_spec (by omega : n / 10 < 10)
  have start : ((padded 2 n).toList ++ rest).dropWhile Text.isBlank =
      (padded 2 n).toList ++ rest := by
    rw [padded_two small]
    exact List.dropWhile_cons_of_neg (ne_true_of_eq_false visible)
  have inside : (decide (low ≤ n) && decide (n ≤ high)) = true := by
    rw [decide_eq_true least, decide_eq_true most, Bool.and_self]
  rw [field, start, number_two small]
  exact if_pos inside

/-- A year of four digits is read without a sign. -/
theorem year_four {value : Int} (least : 0 ≤ value) (most : value ≤ 9999) (rest : List Char) :
    year ((yearText value).toList ++ rest) = .ok (value, rest) := by
  have inside : (decide (0 ≤ value) && decide (value ≤ 9999)) = true := by
    rw [decide_eq_true least, decide_eq_true most, Bool.and_self]
  have small : value.toNat < 10000 := by omega
  have read := number_four small rest
  obtain ⟨isDigit, -, visible⟩ := digitChar_spec (by omega : value.toNat / 1000 < 10)
  have unsigned : (value.toNat / 1000).digitChar ≠ '-' ∧ (value.toNat / 1000).digitChar ≠ '+' := by
    constructor
    · intro same
      rw [same] at isDigit
      cases isDigit
    · intro same
      rw [same] at isDigit
      cases isDigit
  have same : (value.toNat : Int) = value := Int.toNat_of_nonneg least
  have inRange : (decide (-2147483648 ≤ (value.toNat : Int)) &&
      decide ((value.toNat : Int) ≤ 2147483647)) = true := by
    rw [same, decide_eq_true (by omega), decide_eq_true (by omega), Bool.and_self]
  rw [yearText, if_pos inside]
  rw [padded_four small, List.cons_append] at read ⊢
  rw [year, List.dropWhile_cons_of_neg (ne_true_of_eq_false visible)]
  split
  · next start => exact absurd (List.cons.inj start).1 unsigned.1
  · next start => exact absurd (List.cons.inj start).1 unsigned.2
  · rw [read]
    exact (if_pos inRange).trans (by rw [same]; rfl)

/-- A mark is read where it stands. -/
theorem mark_self {c : Char} (visible : Text.isBlank c = false) (rest : List Char) :
    mark c (c :: rest) = .ok rest := by
  rw [mark, List.dropWhile_cons_of_neg (ne_true_of_eq_false visible)]
  exact if_pos rfl

/-- The year of the instant has four digits. -/
def HasShortYear (instant : Instant) : Prop :=
  0 ≤ (civil (instant.seconds / 86400)).1 ∧ (civil (instant.seconds / 86400)).1 ≤ 9999

/-- An instant as reading gives it: a leap second is the last of its minute. -/
structure Proper (instant : Instant) : Prop where
  year : instant.HasShortYear
  leap : instant.leap = true -> instant.seconds % 60 = 59

/-- A proper instant is read back from its text. -/
theorem Proper.parse_text {instant : Instant} (proper : instant.Proper) :
    parse instant.text = .ok instant := by
  obtain ⟨seconds, leap⟩ := instant
  obtain ⟨⟨least, most⟩, onlyLast⟩ := proper
  obtain ⟨y, m, d, isCivil, isDate, same⟩ := civil_spec (seconds / 86400)
  dsimp only at least most onlyLast
  rw [isCivil] at least most
  dsimp only at least most
  have month := isDate.lastMonth
  have day := isDate.day_le
  let clock := (seconds % 86400).toNat
  let second := clock % 60 + if leap then 1 else 0
  have clockSmall : clock < 86400 := by omega
  have secondSmall : second ≤ 60 := by
    simp only [second]
    split_ifs <;> omega
  have total : days y m d * 86400 +
      ((clock / 3600 * 3600 + clock / 60 % 60 * 60 + min second 59 : Nat) : Int) = seconds := by
    rw [same]
    simp only [second]
    split_ifs with isLeap
    · have last := onlyLast isLeap
      omega
    · omega
  have marked : (second == 60) = leap := by
    simp only [second]
    cases leap with
    | true =>
      have last := onlyLast rfl
      have fullMinute : clock % 60 + 1 = 60 := by omega
      exact beq_iff_eq.2 fullMinute
    | false =>
      refine beq_false_of_ne ?_
      show clock % 60 + 0 ≠ 60
      omega
  have chars : (text ⟨seconds, leap⟩).toList = (yearText y).toList ++ '-' :: ((padded 2 m).toList ++
      '-' :: ((padded 2 d).toList ++ 'T' :: ((padded 2 (clock / 3600)).toList ++
        ':' :: ((padded 2 (clock / 60 % 60)).toList ++
          ':' :: ((padded 2 second).toList ++ ['Z']))))) := by
    rw [text, isCivil]
    simp [second, clock]
  have ok_bind {α β : Type} (value : α) (next : α -> Except Fault β) :
      (Except.ok value >>= next) = next value := rfl
  rw [parse, chars, year_four least most, ok_bind]
  dsimp only
  rw [mark_self (by decide), ok_bind, field_two isDate.firstMonth month (by omega), ok_bind]
  dsimp only
  rw [mark_self (by decide), ok_bind, field_two isDate.firstDay day (by omega), ok_bind]
  dsimp only
  rw [dateEnd, if_pos (by decide), ok_bind,
    field_two (Nat.zero_le _) (by omega) (by omega), ok_bind]
  dsimp only
  rw [mark_self (by decide), ok_bind, field_two (Nat.zero_le _) (by omega) (by omega), ok_bind]
  dsimp only
  rw [mark_self (by decide), ok_bind, field_two (Nat.zero_le _) secondSmall (by omega), ok_bind]
  dsimp only
  have universal : offset (List.dropWhile Text.isBlank ['Z']) = .ok (0, []) := by rfl
  rw [show fraction ['Z'] = .ok ['Z'] from rfl, ok_bind, universal, ok_bind]
  dsimp only
  rw [Int.sub_zero, total, isCivil, if_neg (by simp), if_neg, if_neg (by decide), if_pos, marked]
  · rfl
  · simp [isCalendarYear]
    omega
  · simp [isCalendarYear, isDate.lastDay]
    omega

/-- The instant without a mark that makes it look like the second after it. -/
def normal (instant : Instant) : Instant :=
  if instant.leap = true ∧ instant.seconds % 60 ≠ 59 then ⟨instant.seconds + 1, false⟩ else instant

/-- The text of an instant does not tell it from its normal form. -/
theorem text_normal (instant : Instant) : instant.normal.text = instant.text := by
  obtain ⟨seconds, leap⟩ := instant
  rw [normal]
  split_ifs with odd
  · obtain ⟨rfl, early⟩ := odd
    dsimp only at early
    have day : (seconds + 1) / 86400 = seconds / 86400 := by omega
    have clock : ((seconds + 1) % 86400).toNat = (seconds % 86400).toNat + 1 := by omega
    have hour : ((seconds % 86400).toNat + 1) / 3600 = (seconds % 86400).toNat / 3600 := by omega
    have minute : ((seconds % 86400).toNat + 1) / 60 = (seconds % 86400).toNat / 60 := by omega
    have second : ((seconds % 86400).toNat + 1) % 60 = (seconds % 86400).toNat % 60 + 1 := by omega
    rw [text, text]
    dsimp only
    rw [day, clock, hour, minute, second]
    rfl
  · rfl

/-- The normal form of an instant with a short year is read back. -/
theorem HasShortYear.proper_normal {instant : Instant} (short : instant.HasShortYear) :
    instant.normal.Proper := by
  obtain ⟨seconds, leap⟩ := instant
  rw [normal]
  split_ifs with odd
  · have day : (seconds + 1) / 86400 = seconds / 86400 := by
      have early := odd.2
      dsimp only at early
      omega
    refine ⟨?_, nofun⟩
    rw [HasShortYear, day]
    exact short
  · exact ⟨short, fun isLeap => by_contra fun early => odd ⟨isLeap, early⟩⟩

end GuestFleet.Time.Instant
