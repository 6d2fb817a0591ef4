import GuestFleet.Json.Reading

/-!
# Fields of requests

Requests are objects with named fields, some of which may be left out; null stands for
a field that is left out. A fault names the field.
-/

namespace GuestFleet.Json

/-- What is wrong with a field of a request. -/
inductive FieldFault where
  | missing (field : String)
  | notText (field : String)
  | notList (field : String)
  /-- The field holds no name that is known for it. -/
  | unknown (field : String)
deriving DecidableEq, Repr

/-- The words for a fault. -/
def FieldFault.message : FieldFault -> String
  | .missing field => "missing " ++ field
  | .notText field => field ++ " is not a string"
  | .notList field => field ++ " is not a list"
  | .unknown field => field

/-- A field of a request, or what is wrong with it. -/
abbrev Fielded := Except FieldFault

/-- The value of a field that is not left out. -/
def field? (request : Json) (name : String) : Option Json :=
  match request.member? name with
  | some .null => none
  | found => found

/-- The value of a field that must be there, null or not. -/
def fieldValue (request : Json) (name : String) : Fielded Json :=
  match request.member? name with
  | some value => .ok value
  | none => .error (.missing name)

/-- The value as a text. -/
def asText (name : String) : Json -> Fielded String
  | .string text => .ok text
  | _ => .error (.notText name)

/-- The value as a list. -/
def asList (name : String) : Json -> Fielded (List Json)
  | .array items => .ok items
  | _ => .error (.notList name)

/-- A text that must be there. -/
def textField (request : Json) (name : String) : Fielded String := do
  asText name (<- request.fieldValue name)

/-- A text that may be left out. -/
def optionalTextField (request : Json) (name : String) : Fielded (Option String) :=
  (request.field? name).mapM (asText name)

/-- A text with a usual value. -/
def textFieldOr (request : Json) (name usual : String) : Fielded String :=
  (request.optionalTextField name).map (·.getD usual)

/-- A list that must be there. -/
def listField (request : Json) (name : String) : Fielded (List Json) := do
  asList name (<- request.fieldValue name)

/-- A list that may be left out. -/
def optionalListField (request : Json) (name : String) : Fielded (Option (List Json)) :=
  (request.field? name).mapM (asList name)

/-- A list that is empty if it is left out. -/
def listFieldOr (request : Json) (name : String) : Fielded (List Json) :=
  (request.optionalListField name).map (·.getD [])

/-- A list of texts that must be there. -/
def textsField (request : Json) (name : String) : Fielded (List String) := do
  (<- request.listField name).mapM (asText name)

/-- A text that is one of some names. -/
def namedField (request : Json) (name : String) (known : String -> Option α) : Fielded α := do
  match known (<- request.textField name) with
  | some value => return value
  | none => throw (.unknown name)

/-- The field is true. -/
def flagField (request : Json) (name : String) : Bool :=
  match request.member? name with
  | some (.bool value) => value
  | _ => false

/-- A natural number, if the field holds one. -/
def naturalField? (request : Json) (name : String) : Option Nat :=
  match request.member? name with
  | some (.integer (.ofNat n)) => some n
  | _ => none

/-- A natural number with a usual value. -/
def naturalFieldOr (request : Json) (name : String) (usual : Nat) : Nat :=
  (request.naturalField? name).getD usual

end GuestFleet.Json
