import GuestFleet.Change.Snapshot
import GuestFleet.Store.Program

/-!
# Requests for many objects

Reading, creating, deleting and replacing lists of objects. An object that exists
already counts as created, and one that does not exist as deleted, so that a request
that broke off can be made again.
-/

namespace GuestFleet.Request

open Kube (Kind Object)

variable {kind : Kind}

/-- The object with a name, if it exists. -/
def getOptional (kind : Kind) (space : Option String) (name : String) :
    Request (Option (Object kind)) := do
  match <- (get kind space name).attempt with
  | .ok object => return some object
  | .error failure => if failure.isNotFound then return none else throw failure

/-- The objects with some names, as far as they exist. -/
def getExisting (kind : Kind) (space : Option String) :
    List String -> Request (List (Object kind))
  | [] => return []
  | name :: names => do
    let found <- getOptional kind space name
    let others <- getExisting kind space names
    return found.toList ++ others

/-- Creates an object unless it exists. -/
def createOne (object : Object kind) : Request Unit := do
  match <- (create object).attempt with
  | .ok _ => return ()
  | .error failure => if failure.isAlreadyExists then return () else throw failure

/-- Creates every object that does not exist. -/
def createAll : List (Object kind) -> Request Unit
  | [] => return ()
  | object :: objects => do
    createOne object
    createAll objects

/-- Deletes an object if it exists. -/
def deleteOne (grace : Option Nat) (object : Object kind) : Request Unit := do
  match <- (delete kind object.metadata.namespaceName object.name grace).attempt with
  | .ok _ => return ()
  | .error failure => if failure.isNotFound then return () else throw failure

/-- Deletes every object that exists. -/
def deleteAll (grace : Option Nat) : List (Object kind) -> Request Unit
  | [] => return ()
  | object :: objects => do
    deleteOne grace object
    deleteAll grace objects

/-- Replaces every object. -/
def replaceAll : List (Object kind) -> Request Unit
  | [] => return ()
  | object :: objects => do
    let _ <- replace object
    replaceAll objects

/-- Creates an object with a snapshot of itself, or merges it into the one that exists,
unless that one was written from the same desired object. -/
def mergeOne (desired : Object kind) : Request Unit := do
  match <- getOptional kind desired.metadata.namespaceName desired.name with
  | none => createOne desired.stamped
  | some current =>
    if current.needsUpdate desired then
      match current.mergeDesired desired with
      | .error failure => throw failure
      | .ok merged =>
        let _ <- replace merged
        return ()
    else return ()

/-- Creates or merges every desired object. -/
def mergeAll : List (Object kind) -> Request Unit
  | [] => return ()
  | desired :: others => do
    mergeOne desired
    mergeAll others

end GuestFleet.Request
