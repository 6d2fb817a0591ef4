import GuestFleet.Number.Shortest

/-!
# JSON values

Values with integers kept apart from other numbers. The members of an object are a
list in increasing key order without repeated keys, the predicate `Json.Ordered`;
every function of this library that builds an object keeps it.
-/

namespace GuestFleet

open Number (Binary64)

/-- A JSON value. An integer is one that fits in 64 bits, signed or not; every other
number is a binary64 number. -/
inductive Json where
  | null
  | bool (value : Bool)
  | integer (value : Int)
  | real (value : Binary64)
  | string (text : String)
  | array (items : List Json)
  | object (members : List (String × Json))
deriving Repr

namespace Json

instance : Inhabited Json := ⟨.null⟩

/-- The members of an object. -/
abbrev Members := List (String × Json)

/-- The value of a key. -/
def Members.find (members : Members) (key : String) : Option Json :=
  List.lookup key members

/-- The members with a value put under a key, in its place in the order. -/
def Members.insert (key : String) (value : Json) : Members -> Members
  | [] => [(key, value)]
  | (k, v) :: rest =>
    if key = k then (key, value) :: rest
    else if key < k then (key, value) :: (k, v) :: rest
    else (k, v) :: Members.insert key value rest

/-- The members without a key. -/
def Members.erase (key : String) (members : Members) : Members :=
  members.filter fun member => member.1 != key

/-- Members in any order put in order; of a repeated key the last value counts. -/
def Members.ofList (members : List (String × Json)) : Members :=
  members.foldl (fun sorted member => Members.insert member.1 member.2 sorted) []

/-- An object from members in any order. -/
def ofMembers (members : List (String × Json)) : Json :=
  .object (Members.ofList members)

/-- A member of an object, `none` for other values. -/
def member? (value : Json) (key : String) : Option Json :=
  match value with
  | .object members => Members.find members key
  | _ => none

/-- The value null. -/
def isNull : Json -> Bool
  | .null => true
  | _ => false

/-- A text value. -/
def string? : Json -> Option String
  | .string text => some text
  | _ => none

mutual

/-- Equality of values. An integer never equals a binary64 number, and the two zeros
are equal. -/
def same : Json -> Json -> Bool
  | .null, .null => true
  | .bool a, .bool b => a == b
  | .integer a, .integer b => a == b
  | .real a, .real b => a.same b
  | .string a, .string b => a == b
  | .array a, .array b => sameItems a b
  | .object a, .object b => sameMembers a b
  | _, _ => false

/-- Equality of lists of values. -/
def sameItems : List Json -> List Json -> Bool
  | [], [] => true
  | a :: as, b :: bs => same a b && sameItems as bs
  | _, _ => false

/-- Equality of members, key by key. -/
def sameMembers : List (String × Json) -> List (String × Json) -> Bool
  | [], [] => true
  | (j, a) :: as, (k, b) :: bs => j == k && same a b && sameMembers as bs
  | _, _ => false

end

mutual

/-- Every value is the same as itself. -/
theorem same_refl : forall value : Json, same value value = true
  | .null => rfl
  | .bool _ => by simp [same]
  | .integer _ => by simp [same]
  | .real x => by simp [same, Binary64.same_refl x]
  | .string _ => by simp [same]
  | .array items => by simp [same, sameItems_refl items]
  | .object members => by simp [same, sameMembers_refl members]

/-- Every list of values is the same as itself, item by item. -/
theorem sameItems_refl : forall items : List Json, sameItems items items = true
  | [] => rfl
  | item :: items => by simp [sameItems, same_refl item, sameItems_refl items]

/-- Every list of members is the same as itself, member by member. -/
theorem sameMembers_refl :
    forall members : List (String × Json), sameMembers members members = true
  | [] => rfl
  | (_, value) :: members => by simp [sameMembers, same_refl value, sameMembers_refl members]

end

mutual

/-- Every object in the value lists its members in strictly increasing key order. -/
def Ordered : Json -> Prop
  | .array items => OrderedItems items
  | .object members => (members.map Prod.fst).Pairwise (· < ·) ∧ OrderedMembers members
  | _ => True

/-- Every item is ordered. -/
def OrderedItems : List Json -> Prop
  | [] => True
  | item :: items => Ordered item ∧ OrderedItems items

/-- Every member's value is ordered. -/
def OrderedMembers : List (String × Json) -> Prop
  | [] => True
  | (_, value) :: members => Ordered value ∧ OrderedMembers members

end

end Json

end GuestFleet
