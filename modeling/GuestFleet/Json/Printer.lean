import GuestFleet.Json.Basic

/-!
# JSON text

The compact text of a value: no white space, members in their order, and only the
quote, the backslash and the control characters below the blank escaped.
-/

namespace GuestFleet.Json

open Number (Binary64 DecimalStyle)

/-- Numbers are positional from `0.00001` up to sixteen digits before the point. -/
def numberStyle : DecimalStyle := ⟨-5, 15, true⟩

/-- The escaped form of one character of a text. -/
def escapeChar (c : Char) : List Char :=
  if c = '"' then ['\\', '"']
  else if c = '\\' then ['\\', '\\']
  else if c = '\x08' then ['\\', 'b']
  else if c = '\x0c' then ['\\', 'f']
  else if c = '\n' then ['\\', 'n']
  else if c = '\r' then ['\\', 'r']
  else if c = '\t' then ['\\', 't']
  else if c.toNat < 0x20 then
    ['\\', 'u', '0', '0', Nat.digitChar (c.toNat / 16), Nat.digitChar (c.toNat % 16)]
  else [c]

/-- A text in quotes. -/
def stringChars (text : String) : List Char :=
  '"' :: (text.toList.flatMap escapeChar ++ ['"'])

/-- The digits of an integer with its sign. -/
def integerChars (value : Int) : List Char :=
  match value with
  | .ofNat n => Nat.toDigits 10 n
  | .negSucc n => '-' :: Nat.toDigits 10 (n + 1)

mutual

/-- The compact text of a value. -/
def chars : Json -> List Char
  | .null => ['n', 'u', 'l', 'l']
  | .bool true => ['t', 'r', 'u', 'e']
  | .bool false => ['f', 'a', 'l', 's', 'e']
  | .integer value => integerChars value
  | .real value => (value.text numberStyle).toList
  | .string text => stringChars text
  | .array items => '[' :: (itemsChars items ++ [']'])
  | .object members => '\x7b' :: (membersChars members ++ ['\x7d'])

/-- Items with commas between them. -/
def itemsChars : List Json -> List Char
  | [] => []
  | [item] => chars item
  | item :: items => chars item ++ ',' :: itemsChars items

/-- Members with commas between them. -/
def membersChars : List (String × Json) -> List Char
  | [] => []
  | [(key, value)] => stringChars key ++ ':' :: chars value
  | (key, value) :: members => stringChars key ++ ':' :: chars value ++ ',' :: membersChars members

end

/-- The compact text of a value. -/
def text (value : Json) : String := String.ofList value.chars

end GuestFleet.Json
