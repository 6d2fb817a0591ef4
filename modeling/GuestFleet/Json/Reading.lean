import GuestFleet.Json.Printer
import GuestFleet.Text.Quoted
import GuestFleet.Time.Instant

/-!
# Reading typed values

How typed values are read from JSON values, and why that fails. A record is read from
the members of an object in key order; unknown members are passed over, and the first
member that does not fit decides the fault.
-/

namespace GuestFleet.Json

open Number (Binary64)

/-- What stands where something else was expected. -/
inductive Found where
  | null
  | bool (value : Bool)
  | integer (value : Int)
  | real (value : Binary64)
  | string (text : String)
  | sequence
  | map
deriving DecidableEq, Repr

/-- The words for what was found. -/
def Found.describe : Found -> String
  | .null => "null"
  | .bool value => "boolean `" ++ (if value then "true" else "false") ++ "`"
  | .integer value => "integer `" ++ String.ofList (integerChars value) ++ "`"
  | .real value => "floating point `" ++ value.text numberStyle ++ "`"
  | .string text => "string " ++ Text.quoted text
  | .sequence => "sequence"
  | .map => "map"

/-- The kind of a value, with its content if it is a plain one. -/
def found : Json -> Found
  | .null => .null
  | .bool value => .bool value
  | .integer value => .integer value
  | .real value => .real value
  | .string text => .string text
  | .array _ => .sequence
  | .object _ => .map

/-- Why a value is not of the expected type. -/
inductive ReadFault where
  | wrongType (actual : Found) (expected : String)
  | wrongValue (actual : Found) (expected : String)
  | missing (field : String)
  | wrongLength (length : Nat) (expected : String)
  | wrongTime (fault : Time.Instant.Fault)
  | wrongBytes (message : String)
deriving DecidableEq, Repr

/-- The words for a fault. -/
def ReadFault.message : ReadFault -> String
  | .wrongType actual expected =>
    "invalid type: " ++ actual.describe ++ ", expected " ++ expected
  | .wrongValue actual expected =>
    "invalid value: " ++ actual.describe ++ ", expected " ++ expected
  | .missing field => "missing field `" ++ field ++ "`"
  | .wrongLength length expected =>
    "invalid length " ++ toString length ++ ", expected " ++ expected
  | .wrongTime fault => fault.message
  | .wrongBytes message => message

/-- The result of reading a typed value. -/
abbrev Read (α : Type) := Except ReadFault α

/-- The fault of a value of another type. -/
def mismatch (value : Json) (expected : String) : Read α :=
  .error (.wrongType value.found expected)

/-- A text. -/
def readString : Json -> Read String
  | .string text => .ok text
  | other => mismatch other "a string"

/-- A truth value. -/
def readBool : Json -> Read Bool
  | .bool value => .ok value
  | other => mismatch other "a boolean"

/-- An integer within bounds. -/
def readInteger (low high : Int) (expected : String) : Json -> Read Int
  | .integer value =>
    if low ≤ value && value ≤ high then .ok value
    else .error (.wrongValue (.integer value) expected)
  | other => mismatch other expected

/-- An integer of 32 bits. -/
def readInt32 : Json -> Read Int := readInteger (-2147483648) 2147483647 "i32"

/-- An integer of 64 bits. -/
def readInt64 : Json -> Read Int := readInteger (-9223372036854775808) 9223372036854775807 "i64"

/-- A list, item by item. -/
def readList (item : Json -> Read α) : Json -> Read (List α)
  | .array items => items.mapM item
  | other => mismatch other "a sequence"

/-- A map from texts, in key order. -/
def readMap (item : Json -> Read α) : Json -> Read (List (String × α))
  | .object members => members.mapM fun (key, value) => (item value).map fun v => (key, v)
  | other => mismatch other "a map"

/-- A value that may be absent; null counts as absent. -/
def readOption (item : Json -> Read α) : Json -> Read (Option α)
  | .null => .ok none
  | other => (item other).map some

/-- A value for which null stands for the given one. -/
def readOr (absent : α) (item : Json -> Read α) : Json -> Read α
  | .null => .ok absent
  | other => item other

/-- An instant as RFC 3339 text. -/
def readInstant : Json -> Read Time.Instant
  | .string text =>
    match Time.Instant.parse text with
    | .ok instant => .ok instant
    | .error fault => .error (.wrongTime fault)
  | other => mismatch other "an RFC 3339 formatted date and time string"

/-- A record from the members of an object: `member` takes up one member. -/
def readRecord (expected : String) (member : α -> String -> Json -> Read α) (empty : α) :
    Json -> Read α
  | .object members =>
    members.foldlM (fun record entry => member record entry.1 entry.2) empty
  | other => mismatch other expected

/-- A field of a record that may also be written as a list of its fields in order. -/
structure Field where
  name : String
  /-- The list may end before this field. -/
  canEnd : Bool := false

/-- The fields of a record written as a list, `position` fields after its start. -/
def readFields (expected : String) (member : α -> String -> Json -> Read α) :
    Nat -> α -> List Field -> List Json -> Read α
  | _, record, [], _ => .ok record
  | position, record, field :: fields, [] =>
    if field.canEnd then readFields expected member (position + 1) record fields []
    else .error (.wrongLength position expected)
  | position, record, field :: fields, item :: items =>
    match member record field.name item with
    | .error fault => .error fault
    | .ok record => readFields expected member (position + 1) record fields items

/-- A record from an object or from a list of its fields. `member` takes up one field
and `finish` demands those that must be present. -/
def readStruct (name : String) (fields : List Field) (member : α -> String -> Json -> Read α)
    (finish : α -> Read β) (empty : α) : Json -> Read β
  | .object members =>
    match members.foldlM (fun record entry => member record entry.1 entry.2) empty with
    | .error fault => .error fault
    | .ok record => finish record
  | .array items =>
    let expected := "struct " ++ name ++ " with " ++ toString fields.length ++
      (if fields.length = 1 then " element" else " elements")
    match readFields expected member 0 empty fields items with
    | .error fault => .error fault
    | .ok record =>
      match finish record with
      | .error fault => .error fault
      | .ok result =>
        if items.length > fields.length then
          .error (.wrongLength items.length "fewer elements in array")
        else .ok result
  | other => mismatch other ("struct " ++ name)

/-- A member of a text value that must be present. -/
def need (field : String) : Option α -> Read α
  | some value => .ok value
  | none => .error (.missing field)

/-- A member with a text, if it is present. -/
def optionalString (key : String) (value : Option String) : List (String × Json) :=
  (value.map fun text => (key, .string text)).toList

/-- A member with a value, if it is present. -/
def optional (key : String) (write : α -> Json) (value : Option α) : List (String × Json) :=
  (value.map fun present => (key, write present)).toList

/-- A map from texts as an object. -/
def ofStringMap (entries : List (String × String)) : Json :=
  .object (entries.map fun (key, text) => (key, .string text))

/-- A list of texts as an array. -/
def ofStrings (texts : List String) : Json := .array (texts.map .string)

end GuestFleet.Json
