import GuestFleet.Json.Basic

/-!
# Reading JSON text

A reader over the characters that remain. A fault knows its cause and where the
reader stood, which gives the line and the column in bytes. Values nest at most 127
deep, and of a repeated key the last value counts.
-/

namespace GuestFleet.Json.Parser

open Number (Binary64)

/-- Why a text is no JSON text. -/
inductive Cause where
  | endInList
  | endInObject
  | endInString
  | endInValue
  | expectedColon
  | expectedListCommaOrEnd
  | expectedObjectCommaOrEnd
  | expectedIdent
  | expectedValue
  | invalidEscape
  | invalidNumber
  | numberOutOfRange
  | controlCharacter
  | keyMustBeString
  | loneSurrogate
  | trailingComma
  | trailingCharacters
  | unexpectedEndOfEscape
  | tooDeep
deriving DecidableEq, Repr

/-- The words for a cause. -/
def Cause.message : Cause -> String
  | .endInList => "EOF while parsing a list"
  | .endInObject => "EOF while parsing an object"
  | .endInString => "EOF while parsing a string"
  | .endInValue => "EOF while parsing a value"
  | .expectedColon => "expected `:`"
  | .expectedListCommaOrEnd => "expected `,` or `]`"
  | .expectedObjectCommaOrEnd => "expected `,` or `\x7d`"
  | .expectedIdent => "expected ident"
  | .expectedValue => "expected value"
  | .invalidEscape => "invalid escape"
  | .invalidNumber => "invalid number"
  | .numberOutOfRange => "number out of range"
  | .controlCharacter => "control character (\\u0000-\\u001F) found while parsing a string"
  | .keyMustBeString => "key must be a string"
  | .loneSurrogate => "lone leading surrogate in hex escape"
  | .trailingComma => "trailing comma"
  | .trailingCharacters => "trailing characters"
  | .unexpectedEndOfEscape => "unexpected end of hex escape"
  | .tooDeep => "recursion limit exceeded"

/-- A cause and the reader's place: `ahead` bytes into the characters that remain. -/
structure Fault where
  cause : Cause
  remaining : List Char
  ahead : Nat

/-- The result of reading a part: a fault, or the part and what remains. -/
abbrev Reading (α : Type) := Except Fault (α × List Char)

/-- The reader stands before the next character. -/
def Fault.before (cause : Cause) (remaining : List Char) : Except Fault α :=
  .error ⟨cause, remaining, 0⟩

/-- The reader stands one byte into what remains, if anything remains. -/
def Fault.after (cause : Cause) (remaining : List Char) : Except Fault α :=
  .error ⟨cause, remaining, 1⟩

/-- The four white space characters of the grammar. -/
def isSpace (c : Char) : Bool := c == ' ' || c == '\n' || c == '\t' || c == '\r'

/-- What remains after white space. -/
def skipSpace (input : List Char) : List Char := input.dropWhile isSpace

/-- The rest of a literal name, whose first letter is read already. -/
def ident (input : List Char) : List Char -> Except Fault (List Char)
  | [] => .ok input
  | expected :: more =>
    match input with
    | [] => Fault.before .endInValue input
    | c :: rest => if c = expected then ident rest more else Fault.after .expectedIdent input

/-! ## Strings -/

/-- The value of a hexadecimal digit. -/
def hexValue (c : Char) : Option Nat :=
  if '0' ≤ c && c ≤ '9' then some (c.toNat - 48)
  else if 'a' ≤ c && c ≤ 'f' then some (c.toNat - 87)
  else if 'A' ≤ c && c ≤ 'F' then some (c.toNat - 55)
  else none

/-- The count of bytes of some characters. -/
def byteLength (input : List Char) : Nat := input.foldl (fun n c => n + c.utf8Size) 0

/-- Four hexadecimal digits. Four bytes are taken before they are looked at. -/
def hexEscape (input : List Char) : Reading Nat :=
  match input with
  | a :: b :: c :: d :: rest =>
    match hexValue a, hexValue b, hexValue c, hexValue d with
    | some a, some b, some c, some d => .ok (((a * 16 + b) * 16 + c) * 16 + d, rest)
    | _, _, _, _ => .error ⟨.invalidEscape, input, 4⟩
  | short =>
    if byteLength short < 4 then Fault.before .endInString []
    else .error ⟨.invalidEscape, short, 4⟩

/-- The second half of a surrogate pair, or the fault of its absence. -/
def trailingSurrogate (leading : Nat) (input : List Char) : Reading Char :=
  match input with
  | [] => Fault.before .endInString input
  | '\\' :: rest =>
    match rest with
    | [] => Fault.before .endInString rest
    | 'u' :: digits =>
      match hexEscape digits with
      | .error fault => .error fault
      | .ok (trailing, rest) =>
        if 0xdc00 ≤ trailing && trailing ≤ 0xdfff then
          .ok (Char.ofNat ((leading - 0xd800) * 0x400 + (trailing - 0xdc00) + 0x10000), rest)
        else Fault.before .loneSurrogate rest
    | _ => Fault.after .unexpectedEndOfEscape rest
  | _ => Fault.after .unexpectedEndOfEscape input

/-- The character of an escape, after its backslash. -/
def escape (input : List Char) : Reading Char :=
  match input with
  | [] => Fault.before .endInString input
  | 'u' :: digits =>
    match hexEscape digits with
    | .error fault => .error fault
    | .ok (code, rest) =>
      if 0xdc00 ≤ code && code ≤ 0xdfff then Fault.before .loneSurrogate rest
      else if 0xd800 ≤ code && code ≤ 0xdbff then trailingSurrogate code rest
      else .ok (Char.ofNat code, rest)
  | c :: rest =>
    match c with
    | '"' => .ok ('"', rest)
    | '\\' => .ok ('\\', rest)
    | '/' => .ok ('/', rest)
    | 'b' => .ok ('\x08', rest)
    | 'f' => .ok ('\x0c', rest)
    | 'n' => .ok ('\n', rest)
    | 'r' => .ok ('\r', rest)
    | 't' => .ok ('\t', rest)
    | _ => Fault.after .invalidEscape input

/-- The characters up to the closing quote, at most `fuel` of them; `read` holds those
read so far in reverse. -/
def stringBody : Nat -> List Char -> List Char -> Reading String
  | 0, _, input => Fault.before .endInString input
  | fuel + 1, read, input =>
    match input with
    | [] => Fault.before .endInString []
    | '"' :: rest => .ok (String.ofList read.reverse, rest)
    | '\\' :: rest =>
      match escape rest with
      | .ok (c, rest) => stringBody fuel (c :: read) rest
      | .error fault => .error fault
    | c :: rest =>
      if c.toNat < 0x20 then Fault.after .controlCharacter input
      else stringBody fuel (c :: read) rest

/-- A string after its opening quote. -/
def string (input : List Char) : Reading String :=
  stringBody (input.length + 1) [] input

/-! ## Numbers -/

/-- The greatest significand that is kept exactly. -/
def significandLimit : Nat := 0xffffffffffffffff

/-- The greatest exponent that is kept exactly. -/
def exponentLimit : Nat := 0x7fffffff

/-- The binary64 number near `significand * 10 ^ exponent`: the significand is rounded
once, then multiplied or divided by powers of ten of at most 308. `none` beyond the
range. -/
def scale (significand : Nat) (exponent : Int) : Option Float :=
  let steps := (exponent.natAbs + 307) / 308
  go steps (Float.ofNat significand) exponent
where
  /-- One division by `10 ^ 308` a step while the exponent is below -308. -/
  go : Nat -> Float -> Int -> Option Float
  | 0, f, _ => some f
  | fuel + 1, f, exponent =>
    if exponent.natAbs ≤ 308 then
      let power := Float.ofScientific 1 false exponent.natAbs
      if exponent ≥ 0 then
        let product := f * power
        if product.isInf then none else some product
      else some (f / power)
    else if f == 0.0 then some f
    else if exponent ≥ 0 then none
    else go fuel (f / 1e308) (exponent + 308)

/-- The number with this magnitude and sign. -/
def real (positive : Bool) (significand : Nat) (exponent : Int) (rest : List Char) :
    Reading Json :=
  match scale significand exponent with
  | some f => .ok (.real (Binary64.ofFloat (if positive then f else -f)), rest)
  | none => Fault.before .numberOutOfRange rest

/-- The digits of an exponent after the first. Beyond the limit only a zero keeps its
value. -/
def exponentDigits (positive : Bool) (significand : Nat) (start : Int) (raise : Bool) :
    Nat -> List Char -> Reading Json
  | read, [] => real positive significand (bounded start raise read) []
  | read, c :: rest =>
    if c.isDigit then
      let next := read * 10 + (c.toNat - 48)
      if next > exponentLimit then
        if significand ≠ 0 && raise then Fault.before .numberOutOfRange rest
        else
          .ok (.real (Binary64.ofFloat (if positive then 0.0 else -0.0)),
            rest.dropWhile Char.isDigit)
      else exponentDigits positive significand start raise next rest
    else real positive significand (bounded start raise read) (c :: rest)
where
  /-- The sum of both exponents, kept within 32 bits. -/
  bounded (start : Int) (raise : Bool) (read : Nat) : Int :=
    let sum := if raise then start + read else start - read
    min (exponentLimit : Int) (max (-(exponentLimit : Int) - 1) sum)

/-- An exponent after its letter. -/
def exponent (positive : Bool) (significand : Nat) (start : Int) (input : List Char) :
    Reading Json :=
  let (raise, digits) :=
    match input with
    | '+' :: rest => (true, rest)
    | '-' :: rest => (false, rest)
    | rest => (true, rest)
  match digits with
  | [] => Fault.before .endInValue digits
  | c :: rest =>
    if c.isDigit then exponentDigits positive significand start raise (c.toNat - 48) rest
    else Fault.after .invalidNumber digits

/-- What follows the digits of a number that is no integer. -/
def exponentOrEnd (positive : Bool) (significand : Nat) (start : Int) (input : List Char) :
    Reading Json :=
  match input with
  | 'e' :: rest => exponent positive significand start rest
  | 'E' :: rest => exponent positive significand start rest
  | rest => real positive significand start rest

/-- The digits after the point. Digits beyond the significand's limit are dropped. -/
def fractionDigits (positive : Bool) (before : Int) : Nat -> Nat -> List Char -> Reading Json
  | significand, read, [] =>
    if read = 0 then Fault.after .endInValue []
    else real positive significand (before - read) []
  | significand, read, c :: rest =>
    if c.isDigit then
      let next := significand * 10 + (c.toNat - 48)
      if next > significandLimit then
        exponentOrEnd positive significand (before - read) ((c :: rest).dropWhile Char.isDigit)
      else fractionDigits positive before next (read + 1) rest
    else if read = 0 then Fault.after .invalidNumber (c :: rest)
    else exponentOrEnd positive significand (before - read) (c :: rest)

/-- What follows the digits before the point, whose excess count is `dropped`. -/
def longNumber (positive : Bool) (significand : Nat) (dropped : Nat) (input : List Char) :
    Reading Json :=
  match input with
  | '.' :: rest => fractionDigits positive dropped significand 0 rest
  | rest => exponentOrEnd positive significand dropped rest

/-- What follows a significand that fits. A negative zero is no integer. -/
def number (positive : Bool) (significand : Nat) (input : List Char) : Reading Json :=
  match input with
  | '.' :: rest => fractionDigits positive 0 significand 0 rest
  | 'e' :: rest => exponent positive significand 0 rest
  | 'E' :: rest => exponent positive significand 0 rest
  | rest =>
    if positive then .ok (.integer significand, rest)
    else if significand = 0 || significand > 0x8000000000000000 then
      .ok (.real (Binary64.ofFloat (-(Float.ofNat significand))), rest)
    else .ok (.integer (-significand), rest)

/-- The digits of a significand after the first. -/
def significandDigits (positive : Bool) : Nat -> List Char -> Reading Json
  | significand, [] => number positive significand []
  | significand, c :: rest =>
    if c.isDigit then
      let next := significand * 10 + (c.toNat - 48)
      if next > significandLimit then
        let digits := (c :: rest).takeWhile Char.isDigit
        longNumber positive significand digits.length ((c :: rest).dropWhile Char.isDigit)
      else significandDigits positive next rest
    else number positive significand (c :: rest)

/-- A number after its sign. -/
def unsignedNumber (positive : Bool) (input : List Char) : Reading Json :=
  match input with
  | [] => Fault.before .endInValue []
  | '0' :: rest =>
    match rest with
    | c :: _ => if c.isDigit then Fault.after .invalidNumber rest else number positive 0 rest
    | [] => number positive 0 []
  | c :: rest =>
    if c.isDigit then significandDigits positive (c.toNat - 48) rest
    else Fault.after .invalidNumber input

/-! ## Values -/

/-- Where a list goes on: at its closing bracket, or at one more entry. -/
inductive Entry where
  | close (rest : List Char)
  | next (rest : List Char)

/-- The entry of an array that comes next; `first` before the first item. -/
def itemEntry (first : Bool) (input : List Char) : Except Fault Entry :=
  match skipSpace input with
  | [] => Fault.after .endInList []
  | ']' :: rest => .ok (.close rest)
  | c :: rest =>
    if first then .ok (.next (c :: rest))
    else if c = ',' then
      match skipSpace rest with
      | [] => Fault.after .endInValue []
      | ']' :: more => Fault.after .trailingComma (']' :: more)
      | more => .ok (.next more)
    else Fault.after .expectedListCommaOrEnd (c :: rest)

/-- The items of an array, read with `value`; at most `fuel` of them. -/
def items (value : List Char -> Reading Json) :
    Nat -> Bool -> List Json -> List Char -> Reading (List Json)
  | 0, _, _, input => Fault.after .endInList input
  | fuel + 1, first, read, input =>
    match itemEntry first input with
    | .error fault => .error fault
    | .ok (.close rest) => .ok (read.reverse, rest)
    | .ok (.next rest) =>
      match value rest with
      | .error fault => .error fault
      | .ok (item, rest) => items value fuel false (item :: read) rest

/-- The entry of an object that comes next, after the quote of its key. -/
def memberEntry (first : Bool) (input : List Char) : Except Fault Entry :=
  match skipSpace input with
  | [] => Fault.after .endInObject []
  | '\x7d' :: rest => .ok (.close rest)
  | c :: rest =>
    if first then
      if c = '"' then .ok (.next rest) else Fault.after .keyMustBeString (c :: rest)
    else if c = ',' then
      match skipSpace rest with
      | [] => Fault.after .endInValue []
      | '"' :: more => .ok (.next more)
      | '\x7d' :: more => Fault.after .trailingComma ('\x7d' :: more)
      | more => Fault.after .keyMustBeString more
    else Fault.after .expectedObjectCommaOrEnd (c :: rest)

/-- A member after the quote of its key. -/
def member (value : List Char -> Reading Json) (input : List Char) : Reading (String × Json) :=
  match string input with
  | .error fault => .error fault
  | .ok (key, rest) =>
    match skipSpace rest with
    | [] => Fault.after .endInObject []
    | ':' :: rest =>
      match value rest with
      | .error fault => .error fault
      | .ok (result, rest) => .ok ((key, result), rest)
    | rest => Fault.after .expectedColon rest

/-- The members of an object, read with `value`; at most `fuel` of them. -/
def members (value : List Char -> Reading Json) :
    Nat -> Bool -> Members -> List Char -> Reading Members
  | 0, _, _, input => Fault.after .endInObject input
  | fuel + 1, first, read, input =>
    match memberEntry first input with
    | .error fault => .error fault
    | .ok (.close rest) => .ok (read, rest)
    | .ok (.next rest) =>
      match member value rest with
      | .error fault => .error fault
      | .ok ((key, result), rest) =>
        members value fuel false (Members.insert key result read) rest

/-- A value that nests less than `depth` deep. -/
def value : Nat -> List Char -> Reading Json
  | depth, input =>
    match skipSpace input with
    | [] => Fault.after .endInValue []
    | 'n' :: rest => (ident rest ['u', 'l', 'l']).map fun rest => (.null, rest)
    | 't' :: rest => (ident rest ['r', 'u', 'e']).map fun rest => (.bool true, rest)
    | 'f' :: rest => (ident rest ['a', 'l', 's', 'e']).map fun rest => (.bool false, rest)
    | '-' :: rest => unsignedNumber false rest
    | '"' :: rest => (string rest).map fun (text, rest) => (.string text, rest)
    | '[' :: rest =>
      match depth with
      | depth + 2 =>
        (items (value (depth + 1)) (rest.length + 1) true [] rest).map
          fun (list, rest) => (.array list, rest)
      | _ => Fault.after .tooDeep ('[' :: rest)
    | '\x7b' :: rest =>
      match depth with
      | depth + 2 =>
        (members (value (depth + 1)) (rest.length + 1) true [] rest).map
          fun (list, rest) => (.object list, rest)
      | _ => Fault.after .tooDeep ('\x7b' :: rest)
    | c :: rest =>
      if c.isDigit then unsignedNumber true (c :: rest)
      else Fault.after .expectedValue (c :: rest)

/-- A value with nothing but white space after it. -/
def document (input : List Char) : Except Fault Json :=
  match value 128 input with
  | .error fault => .error fault
  | .ok (result, rest) =>
    match skipSpace rest with
    | [] => .ok result
    | rest => Fault.after .trailingCharacters rest

/-- The line, from one, and the column in bytes of a place in a text. -/
structure Place where
  line : Nat
  column : Nat
deriving DecidableEq, Repr

/-- The place of a fault in the text it was found in. -/
def Fault.place (fault : Fault) (input : List Char) : Place :=
  let bytes := (String.ofList input).toUTF8.toList
  let consumed := bytes.take (bytes.length - byteLength fault.remaining + fault.ahead)
  ⟨consumed.count 10 + 1, (consumed.reverse.takeWhile (· != 10)).length⟩

end GuestFleet.Json.Parser

namespace GuestFleet.Json

/-- Why and where a text is no JSON text. -/
structure TextFault where
  cause : Parser.Cause
  place : Parser.Place
deriving DecidableEq, Repr

/-- The cause with the line and column. -/
def TextFault.message (fault : TextFault) : String :=
  fault.cause.message ++ " at line " ++ toString fault.place.line ++ " column " ++
    toString fault.place.column

/-- The value of a text. -/
def parse (text : String) : Except TextFault Json :=
  match Parser.document text.toList with
  | .ok value => .ok value
  | .error fault => .error ⟨fault.cause, fault.place text.toList⟩

end GuestFleet.Json
