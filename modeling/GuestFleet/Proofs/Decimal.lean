/-!
# Decimal texts

Different numbers have different decimal digits, so the texts that resource versions and the
labels of gauges are made of tell them apart.
-/

namespace GuestFleet

/-- Numbers with the same decimal digits are the same. -/
theorem decimal_injective {a b : Nat}
    (same : String.ofList (Nat.toDigits 10 a) = String.ofList (Nat.toDigits 10 b)) : a = b := by
  have digits := String.ofList_injective same
  have value := congrArg (Nat.ofDigitChars 10 · 0) digits
  simpa only [Nat.ofDigitChars_ten_toDigits] using value

end GuestFleet
