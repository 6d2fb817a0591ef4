import GuestFleet.Json.Reading

/-!
# Typed values and their JSON form

How a type is written as JSON and read back, as one value. A record is described by its
members once, and both directions follow from that description: what is written is one
member for each that is present, in the order of the description, and what is read is
taken up member by member.
-/

namespace GuestFleet.Json

/-- How values of a type are written and read. -/
structure Codec (α : Type) where
  write : α -> Json
  read : Json -> Read α

namespace Codec

/-- A text. -/
def text : Codec String := ⟨.string, readString⟩

/-- A truth value. -/
def truth : Codec Bool := ⟨.bool, readBool⟩

/-- An integer of 32 bits. -/
def int32 : Codec Int := ⟨.integer, readInt32⟩

/-- An integer of 64 bits. -/
def int64 : Codec Int := ⟨.integer, readInt64⟩

/-- An instant, as RFC 3339 text. -/
def instant : Codec Time.Instant := ⟨fun value => .string value.text, readInstant⟩

/-- A list of values. -/
def list (item : Codec α) : Codec (List α) :=
  ⟨fun values => .array (values.map item.write), readList item.read⟩

/-- A map from texts, in key order. -/
def map (item : Codec α) : Codec (List (String × α)) :=
  ⟨fun entries => .object (entries.map fun (key, value) => (key, item.write value)),
    readMap item.read⟩

/-- A map from texts to texts. -/
def textMap : Codec (List (String × String)) := text.map

end Codec

/-- One member of a record: its key, what a record writes under it and what a record
becomes when the member is read. -/
structure Member (σ : Type) where
  key : String
  write : σ -> Option Json
  read : σ -> Json -> Read σ

namespace Member

/-- A member that may be absent. It is then not written, and null reads as absent. -/
def optional (key : String) (codec : Codec α) (get : σ -> Option α)
    (set : σ -> Option α -> σ) : Member σ where
  key := key
  write record := (get record).map codec.write
  read record value := (readOption codec.read value).map (set record)

/-- A member that is always written. Null reads as the value given for it. -/
def needed (key : String) (codec : Codec α) (absent : α) (get : σ -> α) (set : σ -> α -> σ) :
    Member σ where
  key := key
  write record := some (codec.write (get record))
  read record value := (readOr absent codec.read value).map (set record)

/-- What a record writes. -/
def written (members : List (Member σ)) (record : σ) : Members :=
  members.filterMap fun member => (member.write record).map fun value => (member.key, value)

/-- Takes up the value of a key. A key that is no member's is passed over. -/
def take (members : List (Member σ)) (record : σ) (key : String) (value : Json) : Read σ :=
  match members.find? (·.key == key) with
  | some member => member.read record value
  | none => .ok record

end Member

/-- A record, by its members in key order. What is not read stays as it is in `empty`;
`name` says what was expected where no object stands. -/
def Codec.record (name : String) (empty : σ) (members : List (Member σ)) : Codec σ where
  write record := .object (Member.written members record)
  read := readRecord name (Member.take members) empty

end GuestFleet.Json
