import GuestFleet.Text.Blank

/-!
# Instants

Points in time with whole seconds, read from and written as RFC 3339 text. Reading is
lenient: blanks may stand between the parts, the numbers may be short, and the offset
may be written `Z`, `UTC` or with or without its colon. Writing is always in universal
time.
-/

namespace GuestFleet.Time

/-- Seconds since the start of 1970 in universal time; a leap second is the second
before it, marked. -/
structure Instant where
  seconds : Int
  leap : Bool
deriving DecidableEq, Repr

namespace Instant

/-- Why a text is no instant. -/
inductive Fault where
  | outOfRange
  | impossible
  | invalid
  | tooShort
  | tooLong
deriving DecidableEq, Repr

/-- The words for a fault. -/
def Fault.message : Fault -> String
  | .outOfRange => "input is out of range"
  | .impossible => "no possible date and time matching input"
  | .invalid => "input contains invalid characters"
  | .tooShort => "premature end of input"
  | .tooLong => "trailing input"

/-! ## Calendar -/

/-- Years divisible by four, save centuries that are not divisible by four hundred. -/
def isLeap (year : Int) : Bool := year % 4 == 0 && (year % 100 != 0 || year % 400 == 0)

/-- The days of a month. -/
def monthLength (year : Int) (month : Nat) : Nat :=
  match month with
  | 2 => if isLeap year then 29 else 28
  | 4 => 30
  | 6 => 30
  | 9 => 30
  | 11 => 30
  | _ => 31

/-- Days from the start of year 0 to the start of a year. -/
def daysToYear (year : Int) : Int :=
  365 * year + (year + 3) / 4 - (year + 99) / 100 + (year + 399) / 400

/-- Days of the year before a month. -/
def daysToMonth (year : Int) : Nat -> Nat
  | 0 => 0
  | 1 => 0
  | month + 1 => daysToMonth year month + monthLength year month

/-- Days since the start of 1970. -/
def days (year : Int) (month day : Nat) : Int :=
  daysToYear year - daysToYear 1970 + daysToMonth year month + (day : Int) - 1

/-- The month and day of a day of the year, counted from zero. -/
def monthAndDay (year : Int) : Nat -> Nat -> Nat -> Nat × Nat
  | 0, month, day => (month, day + 1)
  | fuel + 1, month, day =>
    let length := monthLength year month
    if day < length then (month, day + 1) else monthAndDay year fuel (month + 1) (day - length)

/-- The year, month and day of a count of days since the start of 1970. -/
def civil (count : Int) : Int × Nat × Nat :=
  let fromZero := count + daysToYear 1970
  let guess := fromZero * 400 / 146097
  let year :=
    if fromZero < daysToYear guess then guess - 1
    else if fromZero ≥ daysToYear (guess + 1) then guess + 1
    else guess
  let (month, day) := monthAndDay year 12 1 (fromZero - daysToYear year).toNat
  (year, month, day)

/-! ## Reading -/

/-- At least one and at most `most` decimal digits. -/
def number (most : Nat) (input : List Char) : Except Fault (Nat × List Char) :=
  let digits := (input.take most).takeWhile Char.isDigit
  match input, digits with
  | [], _ => .error .tooShort
  | _, [] => .error .invalid
  | _, digits =>
    let value := digits.foldl (fun n c => n * 10 + (c.toNat - 48)) 0
    if value < 0x8000000000000000 then .ok (value, input.drop digits.length) else .error .outOfRange

/-- A number after blanks, within bounds. -/
def field (most low high : Nat) (input : List Char) : Except Fault (Nat × List Char) := do
  let (value, rest) <- number most (input.dropWhile Text.isBlank)
  if low ≤ value && value ≤ high then return (value, rest) else throw .outOfRange

/-- A year after blanks: up to four digits, or any count of digits after a sign. -/
def year (input : List Char) : Except Fault (Int × List Char) := do
  let input := input.dropWhile Text.isBlank
  let (value, rest) <-
    match input with
    | '-' :: rest => do
      let (value, rest) <- number rest.length rest
      pure (-(value : Int), rest)
    | '+' :: rest => do
      let (value, rest) <- number rest.length rest
      pure ((value : Int), rest)
    | input => do
      let (value, rest) <- number 4 input
      pure ((value : Int), rest)
  if -2147483648 ≤ value && value ≤ 2147483647 then return (value, rest) else throw .outOfRange

/-- A mark after blanks. -/
def mark (expected : Char) (input : List Char) : Except Fault (List Char) :=
  match input.dropWhile Text.isBlank with
  | [] => .error .tooShort
  | c :: rest => if c = expected then .ok rest else .error .invalid

/-- The mark between the date and the time. -/
def dateEnd (input : List Char) : Except Fault (List Char) :=
  match input with
  | [] => .error .tooShort
  | c :: rest => if c = 't' || c = 'T' || c = ' ' then .ok rest else .error .invalid

/-- A fraction of a second, if there is one; its digits do not count. -/
def fraction (input : List Char) : Except Fault (List Char) :=
  match input with
  | '.' :: rest =>
    match rest with
    | [] => .error .tooShort
    | c :: _ => if c.isDigit then .ok (rest.dropWhile Char.isDigit) else .error .invalid
  | rest => .ok rest

/-- Two decimal digits. -/
def twoDigits (input : List Char) : Except Fault (Nat × List Char) :=
  match input with
  | a :: b :: rest =>
    if a.isDigit && b.isDigit then .ok ((a.toNat - 48) * 10 + (b.toNat - 48), rest)
    else .error .invalid
  | [a] => if a.toNat < 0x80 then .error .tooShort else .error .invalid
  | [] => .error .tooShort

/-- An offset in seconds east of universal time. -/
def offset (input : List Char) : Except Fault (Int × List Char) :=
  match input with
  | [] => .error .tooShort
  | c :: rest =>
    let lower := (input.take 3).map Char.toLower
    if lower = ['u', 't', 'c'] then .ok (0, input.drop 3)
    else if c = 'z' || c = 'Z' then .ok (0, rest)
    else if c = '+' || c = '-' || c = '\u2212' then do
      let (hours, rest) <- twoDigits rest
      let rest := rest.dropWhile fun c => c = ':' || Text.isBlank c
      let (minutes, rest) <- twoDigits rest
      if minutes ≥ 60 then throw .outOfRange
      else
        let seconds : Int := hours * 3600 + minutes * 60
        return (if c = '+' then seconds else -seconds, rest)
    else .error .invalid

/-- The years that a calendar date may have. -/
def isCalendarYear (value : Int) : Bool := decide (-262143 ≤ value) && decide (value ≤ 262142)

/-- The instant of a text. -/
def parse (text : String) : Except Fault Instant := do
  let (yearNumber, rest) <- year text.toList
  let rest <- mark '-' rest
  let (month, rest) <- field 2 1 12 rest
  let rest <- mark '-' rest
  let (day, rest) <- field 2 1 31 rest
  let rest <- dateEnd rest
  let (hour, rest) <- field 2 0 23 rest
  let rest <- mark ':' rest
  let (minute, rest) <- field 2 0 59 rest
  let rest <- mark ':' rest
  let (second, rest) <- field 2 0 60 rest
  let rest <- fraction rest
  let (east, rest) <- offset (rest.dropWhile Text.isBlank)
  if !(rest.all Text.isBlank) then throw .tooLong
  else if !isCalendarYear yearNumber || day > monthLength yearNumber month then throw .outOfRange
  else if east.natAbs ≥ 86400 then throw .outOfRange
  else
    let clock := hour * 3600 + minute * 60 + min second 59
    let seconds := days yearNumber month day * 86400 + clock - east
    if isCalendarYear (civil (seconds / 86400)).1 then return ⟨seconds, second == 60⟩
    else throw .impossible

/-! ## Writing -/

/-- A number with at least `width` digits. -/
def padded (width n : Nat) : String :=
  let digits := Nat.toDigits 10 n
  String.ofList (List.replicate (width - digits.length) '0' ++ digits)

/-- A year has four digits, and a sign outside the years 0 to 9999. -/
def yearText (value : Int) : String :=
  if 0 ≤ value && value ≤ 9999 then padded 4 value.toNat
  else (if value < 0 then "-" else "+") ++ padded 4 value.natAbs

/-- The instant in universal time with whole seconds. -/
def text (instant : Instant) : String :=
  let (yearNumber, month, day) := civil (instant.seconds / 86400)
  let second := (instant.seconds % 86400).toNat
  yearText yearNumber ++ "-" ++ padded 2 month ++ "-" ++ padded 2 day ++ "T" ++
    padded 2 (second / 3600) ++ ":" ++ padded 2 (second / 60 % 60) ++ ":" ++
    padded 2 (second % 60 + if instant.leap then 1 else 0) ++ "Z"

end Instant

end GuestFleet.Time
