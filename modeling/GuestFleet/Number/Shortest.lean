import GuestFleet.Number.Binary64

/-!
# Shortest decimals

The decimal with the fewest digits that reads back as a given binary64 number, and of
those the nearest. All arithmetic is exact: the reals that round to the number form
an interval, and for each count of digits the two neighbours of the number on that
decimal grid are tested against it.
-/

namespace GuestFleet.Number

/-- A decimal magnitude `digits * 10 ^ exponent`. -/
structure Decimal where
  digits : Nat
  exponent : Int
deriving DecidableEq, Repr

namespace Shortest

/-- The interval of reals that round to a number, all over one denominator. -/
structure Interval where
  low : Nat
  value : Nat
  high : Nat
  denominator : Nat
  /-- The ends round to the number too. -/
  closed : Bool

/-- The interval of a finite number that is not zero. Below a power of two the
numbers lie twice as dense. -/
def interval (x : Binary64) : Interval :=
  let below := if x.fraction = 0 && decide (x.exponentField > 1) then 1 else 2
  let scale := if x.shift ≥ 1077 then Nat.pow 2 (x.shift - 1077) else 1
  let denominator := if x.shift ≥ 1077 then 1 else Nat.pow 2 (1077 - x.shift)
  { low := (4 * x.mantissa - below) * scale
    value := 4 * x.mantissa * scale
    high := (4 * x.mantissa + 2) * scale
    denominator := denominator
    closed := x.mantissa % 2 == 0 }

/-- The count of decimal digits before the point, negative below one tenth, found by
stepping from `guess`. -/
def magnitudeFrom (numerator denominator : Nat) : Nat -> Int -> Int
  | 0, guess => guess
  | fuel + 1, guess =>
    let tooSmall :=
      if guess ≥ 0 then decide (numerator ≥ denominator * Nat.pow 10 guess.toNat)
      else decide (numerator * Nat.pow 10 (-guess).toNat ≥ denominator)
    let tooLarge :=
      if guess ≥ 1 then decide (numerator < denominator * Nat.pow 10 (guess - 1).toNat)
      else decide (numerator * Nat.pow 10 (1 - guess).toNat < denominator)
    if tooSmall then magnitudeFrom numerator denominator fuel (guess + 1)
    else if tooLarge then magnitudeFrom numerator denominator fuel (guess - 1)
    else guess

/-- The power of ten just above a fraction; the guess comes from the lengths in bits. -/
def magnitude (numerator denominator : Nat) : Int :=
  let guess := ((Nat.log2 numerator : Int) - (Nat.log2 denominator : Int)) * 30103 / 100000
  magnitudeFrom numerator denominator 700 guess

/-- The multiple of `10 ^ exponent` given by `digits` lies in the interval. -/
def contains (range : Interval) (candidate : Decimal) : Bool :=
  let up := if candidate.exponent ≥ 0 then Nat.pow 10 candidate.exponent.toNat else 1
  let down := if candidate.exponent ≥ 0 then 1 else Nat.pow 10 (-candidate.exponent).toNat
  let scaled := candidate.digits * up * range.denominator
  if range.closed then decide (range.low * down ≤ scaled) && decide (scaled ≤ range.high * down)
  else decide (range.low * down < scaled) && decide (scaled < range.high * down)

/-- Twice the remainder of the value over the grid, compared with the grid's step. -/
def floorOn (range : Interval) (exponent : Int) : Nat × Nat × Nat :=
  let numerator := if exponent ≥ 0 then range.value else range.value * Nat.pow 10 (-exponent).toNat
  let denominator :=
    if exponent ≥ 0 then range.denominator * Nat.pow 10 exponent.toNat else range.denominator
  (numerator / denominator, numerator % denominator, denominator)

/-- The nearer of the value's two neighbours on a grid, if one of them lies in the
interval. An exact tie goes to the even neighbour. -/
def onGrid (range : Interval) (exponent : Int) : Option Decimal :=
  let (floor, remainder, step) := floorOn range exponent
  let lower : Decimal := ⟨floor, exponent⟩
  let upper : Decimal := ⟨floor + 1, exponent⟩
  let hasLower := decide (floor > 0) && contains range lower
  let hasUpper := contains range upper
  if hasLower && hasUpper then
    if 2 * remainder < step then some lower
    else if 2 * remainder > step then some upper
    else if floor % 2 = 0 then some lower else some upper
  else if hasLower then some lower
  else if hasUpper then some upper
  else none

/-- The first count of digits, from `count` on, whose grid meets the interval. -/
def search (range : Interval) (size : Int) : Nat -> Nat -> Decimal
  | 0, count => (onGrid range (size - count)).getD ⟨0, 0⟩
  | fuel + 1, count =>
    match onGrid range (size - count) with
    | some found => found
    | none => search range size fuel (count + 1)

/-- The same decimal without trailing zeros in its digits. -/
def trimZeros : Nat -> Decimal -> Decimal
  | 0, d => d
  | fuel + 1, d =>
    if d.digits ≠ 0 && d.digits % 10 == 0 then trimZeros fuel ⟨d.digits / 10, d.exponent + 1⟩
    else d

end Shortest

/-- The shortest decimal that reads back as the magnitude of a finite number. -/
def Binary64.shortest (x : Binary64) : Decimal :=
  if x.isZero then ⟨0, 0⟩
  else
    let range := Shortest.interval x
    let size := Shortest.magnitude range.value range.denominator
    Shortest.trimZeros 20 (Shortest.search range size 17 1)

/-- How a decimal number is written: where positional notation ends. -/
structure DecimalStyle where
  /-- The least power of ten of the leading digit that is written positionally. -/
  leastPositional : Int
  /-- The greatest power of ten of the leading digit that is written positionally. -/
  greatestPositional : Int
  /-- The sign of a positive exponent is written. -/
  signsExponent : Bool

/-- The text of a magnitude. Positional numbers always have a digit after the point;
others have one digit before it and no point when no digit follows. -/
def DecimalStyle.text (style : DecimalStyle) (d : Decimal) : String :=
  let digits := Nat.toDigits 10 d.digits
  let count : Int := digits.length
  let leading := d.exponent + count - 1
  if d.digits = 0 then "0.0"
  else if style.leastPositional ≤ leading && leading ≤ style.greatestPositional then
    if d.exponent ≥ 0 then
      String.ofList (digits ++ List.replicate d.exponent.toNat '0') ++ ".0"
    else if leading ≥ 0 then
      let whole := (leading + 1).toNat
      String.ofList (digits.take whole ++ '.' :: digits.drop whole)
    else
      "0." ++ String.ofList (List.replicate (-leading - 1).toNat '0' ++ digits)
  else
    let mantissa :=
      match digits with
      | first :: second :: rest => first :: '.' :: second :: rest
      | short => short
    let sign := if leading < 0 then "-" else if style.signsExponent then "+" else ""
    String.ofList mantissa ++ "e" ++ sign ++ toString leading.natAbs

/-- The text of a finite number, with its sign. -/
def Binary64.text (style : DecimalStyle) (x : Binary64) : String :=
  (if x.isNegative then "-" else "") ++ style.text x.shortest

end GuestFleet.Number
