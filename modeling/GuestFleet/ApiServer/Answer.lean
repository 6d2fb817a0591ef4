import GuestFleet.ApiServer.Request

/-!
# Answers of the API server

How the operator reads what the server answers. A status is a failure if the code of the
answer says so; with any other code it stands where something else was asked for, and is
taken for that.
-/

namespace GuestFleet.ApiServer

open Kube (Kind)

/-- The codes of failures. -/
def isErrorCode (code : Nat) : Bool := decide (400 ≤ code) && decide (code < 600)

/-- A failure as the server words it. -/
def statusJson (code : Nat) (reason message : String) : Json :=
  .ofMembers
    [("apiVersion", .string "v1"), ("code", .integer (Int.ofNat code)), ("kind", .string "Status"),
      ("message", .string message), ("metadata", .object []), ("reason", .string reason),
      ("status", .string "Failure")]

/-- The column of an answer where a member ends. -/
def columnOf (name : String) (answer : Json) : Nat :=
  match answer with
  | .object members =>
    (Json.object (members.filter fun member => decide (member.1 ≤ name))).text.utf8ByteSize - 1
  | other => other.text.utf8ByteSize

/-- Why an answer that is of no kind that was asked for is unreadable: its version is looked
at before its kind. -/
def misreadObject (kind : Kind) (answer : Json) : RequestFault :=
  let text (name : String) :=
    match answer.member? name with
    | some (.string text) => text
    | _ => ""
  if text "apiVersion" = kind.apiVersion then
    .unreadable (.wrongValue (.string (text "kind")) kind.name) (columnOf "kind" answer)
  else
    .unreadable (.wrongValue (.string (text "apiVersion")) kind.apiVersion)
      (columnOf "apiVersion" answer)

/-- Why an answer that is no list is unreadable. -/
def misreadList (answer : Json) : RequestFault :=
  .unreadable (.missing "items") answer.text.utf8ByteSize

/-- Why a status is unreadable as a cluster. -/
def misreadCluster (answer : Json) : RequestFault :=
  .unreadable (.wrongType (.string "Failure") "struct KvmClusterStatus") (columnOf "status" answer)

/-- A failure if its code says so, and else what is wrong with it as an answer. -/
def reread (misread : Json -> RequestFault) : RequestFault -> RequestFault
  | .status code reason message =>
    if isErrorCode code then .status code reason message
    else misread (statusJson code reason message)
  | fault => fault

/-- The end of a deletion, for which every status is good that is no failure. -/
def deleted : RequestFault -> Except Failure Unit
  | .status code reason message =>
    if isErrorCode code then .error (.request (.status code reason message)) else .ok ()
  | fault => .error (.request fault)

end GuestFleet.ApiServer
