import GuestFleet.Json.Basic
import GuestFleet.Text.Blank

/-!
# Versions

Version bundles are named by three numbers with points between them. Reading a version
also takes a plus sign before a number, which the grammar of valid versions does not.
-/

namespace GuestFleet

/-- The three numbers of a version. -/
structure Version where
  major : Nat
  minor : Nat
  patch : Nat
deriving DecidableEq, Repr

namespace Version

/-- The three numbers in order. -/
def numbers (version : Version) : List Json :=
  [.integer version.major, .integer version.minor, .integer version.patch]

/-- At least one decimal digit and nothing else. -/
def isDigits (text : List Char) : Bool := !text.isEmpty && text.all Char.isDigit

/-- The grammar of versions: three runs of digits with single points between them. -/
def isValid (text : List Char) : Bool :=
  match Text.splitAt '.' text with
  | [major, minor, patch] => isDigits major && isDigits minor && isDigits patch
  | _ => false

/-- The value of decimal digits. -/
def digitsValue (digits : List Char) : Nat :=
  digits.foldl (fun value c => value * 10 + (c.toNat - 48)) 0

/-- A number below two to the sixty-fourth, a plus sign before its digits allowed. -/
def number? (text : List Char) : Option Nat :=
  let digits :=
    match text with
    | '+' :: rest => rest
    | digits => digits
  let value := digitsValue digits
  if isDigits digits && value < 0x10000000000000000 then some value else none

/-- What stands before and after the first point. -/
def cut (text : List Char) : Option (List Char × List Char) :=
  match text.span (· != '.') with
  | (before, _ :: after) => some (before, after)
  | (_, []) => none

/-- The version of a text. -/
def parse? (text : String) : Option Version := do
  let (majorText, rest) <- cut text.toList
  let major <- number? majorText
  let (minorText, patchText) <- cut rest
  let minor <- number? minorText
  let patch <- number? patchText
  return ⟨major, minor, patch⟩

/-- The order by major, then minor, then patch number. -/
def lt (a b : Version) : Bool :=
  if a.major ≠ b.major then decide (a.major < b.major)
  else if a.minor ≠ b.minor then decide (a.minor < b.minor)
  else decide (a.patch < b.patch)

end Version

end GuestFleet
