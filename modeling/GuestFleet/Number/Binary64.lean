/-!
# Binary floating point numbers

A binary64 number is kept as its bit pattern, so that equality of numbers can be
reasoned about; arithmetic goes through the machine's floating point type.
-/

namespace GuestFleet.Number

/-- A binary64 number as its 64 bits. -/
structure Binary64 where
  bits : UInt64
deriving DecidableEq, Repr

namespace Binary64

/-- The number held by a machine float. -/
def ofFloat (value : Float) : Binary64 := ⟨value.toBits⟩

/-- The machine float with these bits. -/
def toFloat (x : Binary64) : Float := Float.ofBits x.bits

/-- The sign bit is set. -/
def isNegative (x : Binary64) : Bool := decide (x.bits.toNat ≥ 0x8000000000000000)

/-- The eleven exponent bits. -/
def exponentField (x : Binary64) : Nat := x.bits.toNat / 0x10000000000000 % 0x800

/-- The fifty-two fraction bits. -/
def fraction (x : Binary64) : Nat := x.bits.toNat % 0x10000000000000

/-- Both zeros, whatever their sign. -/
def isZero (x : Binary64) : Bool := x.bits.toNat % 0x8000000000000000 == 0

/-- Neither infinite nor undefined. -/
def isFinite (x : Binary64) : Bool := decide (x.exponentField < 2047)

/-- Zero or less; not an undefined number. -/
def isAtMostZero (x : Binary64) : Bool :=
  x.isZero || (x.isNegative && (x.isFinite || x.fraction == 0))

/-- Equality of numbers: the same bits, or two zeros. -/
def same (x y : Binary64) : Bool := x.bits == y.bits || (x.isZero && y.isZero)

/-- The magnitude of a finite number as `mantissa * 2 ^ (shift - 1075)`. -/
def mantissa (x : Binary64) : Nat :=
  if x.exponentField = 0 then x.fraction else 0x10000000000000 + x.fraction

/-- The exponent that belongs to `mantissa`, offset by 1075. -/
def shift (x : Binary64) : Nat := max x.exponentField 1

/-- The magnitude times `factor`, rounded to a whole number; a half goes to the even
neighbour. -/
def roundedTimes (x : Binary64) (factor : Nat) : Nat :=
  let numerator := x.mantissa * factor * Nat.pow 2 (x.shift - 1075)
  let denominator := Nat.pow 2 (1075 - x.shift)
  let floor := numerator / denominator
  let twice := 2 * (numerator % denominator)
  if twice < denominator then floor
  else if twice > denominator then floor + 1
  else if floor % 2 = 0 then floor else floor + 1

/-- Every number is the same as itself, also one that is not a number. -/
theorem same_refl (x : Binary64) : x.same x = true := by
  simp [same]

end Binary64

end GuestFleet.Number
