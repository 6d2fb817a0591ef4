/-!
# Request targets

What a request asks for: a path, and behind a question mark a query. Only some characters
may stand in either, and a number sign ends both. Parameters travel in queries with every
byte that could be mistaken for a mark written as two digits.
-/

namespace GuestFleet.Http

/-- Why a text is no target. -/
inductive TargetFault where
  | tooLong
  | invalidCharacter
deriving DecidableEq, Repr

/-- The words for a fault of a target. -/
def TargetFault.message : TargetFault -> String
  | .tooLong => "uri too long"
  | .invalidCharacter => "invalid uri character"

/-- A path and a query. -/
structure Target where
  path : String
  query : Option String := none
deriving DecidableEq, Repr

namespace Target

/-- The most bytes of a target. -/
def mostBytes : Nat := 65534

/-- Blanks, control characters and angle brackets stand nowhere in a target. -/
def isAllowed (c : Char) : Bool :=
  decide (0x21 ≤ c.toNat) && c != '\x7f' && c != '<' && c != '>'

/-- The characters of paths. -/
def isPathChar (c : Char) : Bool := isAllowed c && c != '\x60'

/-- The characters of queries. -/
def isQueryChar (c : Char) : Bool := isAllowed c && c != '"'

/-- The target of a text. -/
def ofText (text : String) : Except TargetFault Target :=
  let shown := text.toList.takeWhile (· != '#')
  let path := shown.takeWhile (· != '?')
  let query := (shown.dropWhile (· != '?')).drop 1
  if mostBytes < text.utf8ByteSize then .error .tooLong
  else if path.all isPathChar && query.all isQueryChar then
    .ok ⟨String.ofList path,
      if path.length = shown.length then none else some (String.ofList query)⟩
  else .error .invalidCharacter

/-! ## Parameters -/

/-- The digit of a value below sixteen. -/
def hexDigit (n : Nat) : Char := if n < 10 then Char.ofNat (48 + n) else Char.ofNat (55 + n)

/-- Bytes that are written as they are. -/
def isPlain (c : Char) : Bool := c.isAlphanum || c == '*' || c == '-' || c == '.' || c == '_'

/-- A byte of a parameter as it is written. -/
def encodeByte (byte : UInt8) : List Char :=
  let c := Char.ofNat byte.toNat
  if isPlain c then [c]
  else if c = ' ' then ['+']
  else ['%', hexDigit (byte.toNat / 16), hexDigit (byte.toNat % 16)]

/-- A parameter as it is written. -/
def encode (text : String) : String := String.ofList (text.toUTF8.toList.flatMap encodeByte)

/-- The value of a digit below sixteen. -/
def hexValue? (byte : UInt8) : Option Nat :=
  let n := byte.toNat
  if 48 ≤ n && n ≤ 57 then some (n - 48)
  else if 65 ≤ n && n ≤ 70 then some (n - 55)
  else if 97 ≤ n && n ≤ 102 then some (n - 87)
  else none

/-- The bytes that a parameter stands for. -/
def decodeBytes : List UInt8 -> List UInt8
  | [] => []
  | 43 :: rest => 32 :: decodeBytes rest
  | [byte] => [byte]
  | [byte, next] => byte :: decodeBytes [next]
  | byte :: high :: low :: rest =>
    match (if byte = 37 then hexValue? high else none), hexValue? low with
    | some high, some low => UInt8.ofNat (high * 16 + low) :: decodeBytes rest
    | _, _ => byte :: decodeBytes (high :: low :: rest)

/-- The text that a parameter stands for. -/
def decode (text : String) : String :=
  (String.fromUTF8? ⟨(decodeBytes text.toUTF8.toList).toArray⟩).getD text

/-- The text of a parameter in the query. -/
def parameter? (target : Target) (name : String) : Option String :=
  ((target.query.getD "").splitOn "&").findSome? fun pair =>
    match pair.splitOn "=" with
    | key :: value :: others =>
      if decode key = name then some (decode (String.intercalate "=" (value :: others))) else none
    | _ => none

end Target

end GuestFleet.Http
