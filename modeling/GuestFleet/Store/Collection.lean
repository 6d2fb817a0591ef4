import GuestFleet.Failure
import GuestFleet.Kube.Object
import GuestFleet.Kube.Selector

/-!
# Collections

The objects of one kind as an API server keeps them. Every write gives the object a new
resource version, and a replacement made from an older version is refused. A collection
can be told to fail calls to come, and remembers the calls that it got.
-/

namespace GuestFleet.Store

open Kube (Kind Object)

/-- What can be asked of a collection. -/
inductive Operation where
  | get
  | list
  | create
  | replace
  | delete
deriving DecidableEq, Repr

namespace Operation

/-- Every operation. -/
def all : List Operation := [.get, .list, .create, .replace, .delete]

/-- The name of an operation. -/
def name : Operation -> String
  | .get => "get"
  | .list => "list"
  | .create => "create"
  | .replace => "replace"
  | .delete => "delete"

/-- The operation with a name. -/
def ofName? (text : String) : Option Operation := all.find? fun operation => operation.name == text

end Operation

/-- Where an object is kept: a namespace, empty if there is none, and a name. -/
structure Slot where
  space : String
  name : String
deriving DecidableEq, Repr

namespace Slot

/-- The slot of a namespace and a name. -/
def make (space : Option String) (name : String) : Slot := ⟨space.getD "", name⟩

/-- The order by namespace, then name. -/
def lt (a b : Slot) : Bool :=
  if a.space ≠ b.space then decide (a.space < b.space) else decide (a.name < b.name)

end Slot

/-- The slot that an object belongs in. -/
def slotOf {kind : Kind} (object : Object kind) : Slot :=
  Slot.make object.metadata.namespaceName object.name

/-- A failure to come: the next call of an operation is answered with it. -/
structure Fault where
  operation : Operation
  code : Nat
  reason : String
deriving DecidableEq, Repr

/-- The objects of a kind in the order of their slots, and what else a collection
knows. -/
structure Collection (kind : Kind) where
  objects : List (Slot × Object kind) := []
  /-- The resource version of the next write. -/
  nextVersion : Nat := 1
  faults : List Fault := []
  /-- The calls so far, the latest first. -/
  calls : List Operation := []
  /-- The names of deleted objects with the grace they were given, the latest first. -/
  deletions : List (String × Option Nat) := []

namespace Collection

variable {kind : Kind}

/-- The object in a slot. -/
def stored (c : Collection kind) (slot : Slot) : Option (Object kind) := List.lookup slot c.objects

/-- Entries with an object put in a slot, in its place in the order. -/
def place (slot : Slot) (object : Object kind) :
    List (Slot × Object kind) -> List (Slot × Object kind)
  | [] => [(slot, object)]
  | (s, o) :: rest =>
    if slot = s then (slot, object) :: rest
    else if slot.lt s then (slot, object) :: (s, o) :: rest
    else (s, o) :: place slot object rest

/-- An object with the resource version of the next write. -/
def versioned (c : Collection kind) (object : Object kind) : Object kind :=
  { object with
    metadata :=
      { object.metadata with
        resourceVersion := some (String.ofList (Nat.toDigits 10 c.nextVersion)) } }

/-- Writes an object whatever is in its slot. -/
def insert (object : Object kind) (c : Collection kind) : Collection kind :=
  { c with
    objects := place (slotOf object) (c.versioned object) c.objects
    nextVersion := c.nextVersion + 1 }

/-- The collection without the object in a slot. -/
def erase (slot : Slot) (c : Collection kind) : Collection kind :=
  { c with objects := c.objects.filter fun entry => entry.1 != slot }

/-- The first failure to come for an operation, and the failures without it. -/
def takeFault (operation : Operation) : List Fault -> Option (Fault × List Fault)
  | [] => none
  | fault :: rest =>
    if fault.operation = operation then some (fault, rest)
    else (takeFault operation rest).map fun (found, others) => (found, fault :: others)

/-- Takes a call. It goes to `answer` unless a failure was ordered for it. -/
def call (operation : Operation) (name : String)
    (answer : Collection kind -> Except Failure α × Collection kind) (c : Collection kind) :
    Except Failure α × Collection kind :=
  let c := { c with calls := operation :: c.calls }
  match takeFault operation c.faults with
  | some (fault, others) =>
    (.error (.injected fault.code fault.reason name), { c with faults := others })
  | none => answer c

/-- The object in a slot, which must not be empty. -/
def get (slot : Slot) : Collection kind -> Except Failure (Object kind) × Collection kind :=
  call .get slot.name fun c =>
    match c.stored slot with
    | some object => (.ok object, c)
    | none => (.error (.notFound kind slot.name), c)

/-- The objects of a namespace, or of all, that a selector selects. -/
def selected (c : Collection kind) (space : Option String) (selector : String) :
    List (Object kind) :=
  (c.objects.filter fun entry =>
    space.all (· == entry.1.space) &&
      Kube.Selector.selects selector entry.2.metadata.labels).map Prod.snd

/-- The objects that a selector selects. -/
def list (space : Option String) (selector : String) :
    Collection kind -> Except Failure (List (Object kind)) × Collection kind :=
  call .list selector fun c => (.ok (c.selected space selector), c)

/-- Writes an object into an empty slot. -/
def create (object : Object kind) :
    Collection kind -> Except Failure (Object kind) × Collection kind :=
  call .create object.name fun c =>
    match c.stored (slotOf object) with
    | some _ => (.error (.alreadyExists kind object.name), c)
    | none => (.ok (c.versioned object), c.insert object)

/-- An object may take the place of another one: it names no version, or that one's. -/
def mayReplace (object existing : Object kind) : Bool :=
  match object.metadata.resourceVersion with
  | none => true
  | some version => existing.metadata.resourceVersion == some version

/-- Writes an object in place of the one in its slot. -/
def replace (object : Object kind) :
    Collection kind -> Except Failure (Object kind) × Collection kind :=
  call .replace object.name fun c =>
    match c.stored (slotOf object) with
    | none => (.error (.notFound kind object.name), c)
    | some existing =>
      if mayReplace object existing then (.ok (c.versioned object), c.insert object)
      else (.error .conflict, c)

/-- Empties a slot, which must not be empty before. -/
def delete (slot : Slot) (grace : Option Nat) :
    Collection kind -> Except Failure Unit × Collection kind :=
  call .delete slot.name fun c =>
    match c.stored slot with
    | none => (.error (.notFound kind slot.name), c)
    | some _ => (.ok (), { c.erase slot with deletions := (slot.name, grace) :: c.deletions })

/-- Orders failures for the next calls of an operation. -/
def failNext (times : Nat) (fault : Fault) (c : Collection kind) : Collection kind :=
  { c with faults := c.faults ++ List.replicate times fault }

end Collection

end GuestFleet.Store
