import GuestFleet.Json.Codec

/-!
# Byte strings

Byte strings travel as base 64 text with padding. A text is accepted only in the one
form that writing produces.
-/

namespace GuestFleet.Kube

open Json (Read)

/-- Bytes that a text form stands for. -/
structure Bytes where
  bytes : List UInt8
deriving DecidableEq, Repr

namespace Bytes

/-- The digit of a value below 64. -/
def digit (n : Nat) : Char :=
  if n < 26 then Char.ofNat (65 + n)
  else if n < 52 then Char.ofNat (71 + n)
  else if n < 62 then Char.ofNat (n - 4)
  else if n = 62 then '+' else '/'

/-- The value of a digit. -/
def value? (c : Char) : Option Nat :=
  if 'A' ≤ c && c ≤ 'Z' then some (c.toNat - 65)
  else if 'a' ≤ c && c ≤ 'z' then some (c.toNat - 71)
  else if '0' ≤ c && c ≤ '9' then some (c.toNat + 4)
  else if c = '+' then some 62
  else if c = '/' then some 63
  else none

/-- Three bytes make four digits; missing bytes are padded. -/
def encode : List UInt8 -> List Char
  | [] => []
  | [a] => [digit (a.toNat / 4), digit (a.toNat % 4 * 16), '=', '=']
  | [a, b] =>
    [digit (a.toNat / 4), digit (a.toNat % 4 * 16 + b.toNat / 16), digit (b.toNat % 16 * 4), '=']
  | a :: b :: c :: rest =>
    digit (a.toNat / 4) :: digit (a.toNat % 4 * 16 + b.toNat / 16) ::
      digit (b.toNat % 16 * 4 + c.toNat / 64) :: digit (c.toNat % 64) :: encode rest

/-- Why a text is no base 64 text. -/
inductive Fault where
  | invalidSymbol (symbol : Nat) (offset : Nat)
  | invalidLength (length : Nat)
  | invalidLastSymbol (symbol : Nat) (offset : Nat)
  | invalidPadding
deriving DecidableEq, Repr

/-- The words for a fault. -/
def Fault.message : Fault -> String
  | .invalidSymbol symbol offset =>
    "Invalid symbol " ++ toString symbol ++ ", offset " ++ toString offset ++ "."
  | .invalidLength length => "Invalid input length: " ++ toString length
  | .invalidLastSymbol symbol offset =>
    "Invalid last symbol " ++ toString symbol ++ ", offset " ++ toString offset ++ "."
  | .invalidPadding => "Invalid padding"

/-- The byte that pads. -/
def padding : UInt8 := 61

/-- The value of a digit. -/
def symbol (offset : Nat) (byte : UInt8) : Except Fault Nat :=
  match value? (Char.ofNat byte.toNat) with
  | some value => .ok value
  | none => .error (.invalidSymbol byte.toNat offset)

/-- The values of digits. -/
def symbols : (offset : Nat) -> List UInt8 -> Except Fault (List Nat)
  | _, [] => .ok []
  | offset, byte :: rest => do
    let value <- symbol offset byte
    let values <- symbols (offset + 1) rest
    .ok (value :: values)

/-- The bytes of the last group, which may be padded. Its last digit has no bits to spare. -/
def lastGroup (offset : Nat) (group : List UInt8) : Except Fault (List UInt8) := do
  let digits := group.takeWhile (· != padding)
  let rest := group.dropWhile (· != padding)
  let values <- symbols offset digits
  if !rest.isEmpty && (digits.length < 2 || rest.any (· != padding)) then
    throw (.invalidSymbol padding.toNat (offset + digits.length))
  let lastDigit := Fault.invalidLastSymbol (digits.getLastD 0).toNat (offset + digits.length - 1)
  match values with
  | [] => return []
  | [_] => throw (.invalidLength (offset + 1))
  | [x, y] =>
    if group.length % 4 ≠ 0 then throw .invalidPadding
    else if y % 16 ≠ 0 then throw lastDigit
    else return [UInt8.ofNat (x * 4 + y / 16)]
  | [x, y, z] =>
    if group.length % 4 ≠ 0 then throw .invalidPadding
    else if z % 4 ≠ 0 then throw lastDigit
    else return [UInt8.ofNat (x * 4 + y / 16), UInt8.ofNat (y % 16 * 16 + z / 4)]
  | x :: y :: z :: w :: _ =>
    return [UInt8.ofNat (x * 4 + y / 16), UInt8.ofNat (y % 16 * 16 + z / 4),
      UInt8.ofNat (z % 4 * 64 + w)]

/-- The bytes of groups of four digits. -/
def groups (offset : Nat) : List UInt8 -> Except Fault (List UInt8)
  | a :: b :: c :: d :: e :: rest => do
    let x <- symbol offset a
    let y <- symbol (offset + 1) b
    let z <- symbol (offset + 2) c
    let w <- symbol (offset + 3) d
    let more <- groups (offset + 4) (e :: rest)
    .ok (UInt8.ofNat (x * 4 + y / 16) :: UInt8.ofNat (y % 16 * 16 + z / 4) ::
      UInt8.ofNat (z % 4 * 64 + w) :: more)
  | group => lastGroup offset group

/-- A single last byte that is neither a digit nor padding is told of before all else. -/
def strayEnd (bytes : List UInt8) : Except Fault Unit :=
  match bytes.getLast? with
  | some byte =>
    if bytes.length % 4 = 1 && byte != padding then
      (symbol (bytes.length - 1) byte).map fun _ => ()
    else .ok ()
  | none => .ok ()

/-- The text form. -/
def text (value : Bytes) : String := String.ofList (encode value.bytes)

/-- Bytes from their text form. -/
def parse (text : String) : Except Fault Bytes :=
  let bytes := text.toUTF8.toList
  (strayEnd bytes).bind fun _ => (groups 0 bytes).map Bytes.mk

/-- Bytes from a JSON text. -/
def read : Json -> Read Bytes
  | .string text =>
    match parse text with
    | .ok value => .ok value
    | .error fault => .error (.wrongBytes fault.message)
  | other => Json.mismatch other "a base64-encoded string"

/-- The JSON form of bytes. -/
def codec : Json.Codec Bytes := ⟨fun value => .string value.text, read⟩

end Bytes

end GuestFleet.Kube
