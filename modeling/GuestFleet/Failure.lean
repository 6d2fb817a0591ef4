import GuestFleet.Http.Target
import GuestFleet.Json.Parser
import GuestFleet.Json.Reading
import GuestFleet.Json.ThreeWay
import GuestFleet.Kube.Kind

/-!
# Failures

Why an operation fails. A failure of a phase wraps its cause, and every question about
a wrapped failure is answered by the cause.
-/

namespace GuestFleet

open Kube (Kind)

/-- The phases of a step of a pass. -/
inductive Phase where
  | currentState
  | desiredState
  | createPatch
  | updatePatch
  | deletePatch
  | applyCreate
  | applyDelete
  | applyUpdate
deriving DecidableEq, Repr

namespace Phase

/-- Every phase, in the order of a step. -/
def all : List Phase :=
  [.currentState, .desiredState, .createPatch, .updatePatch, .deletePatch, .applyCreate,
    .applyDelete, .applyUpdate]

/-- The name of a phase. -/
def name : Phase -> String
  | .currentState => "current_state"
  | .desiredState => "desired_state"
  | .createPatch => "create_patch"
  | .updatePatch => "update_patch"
  | .deletePatch => "delete_patch"
  | .applyCreate => "apply_create"
  | .applyDelete => "apply_delete"
  | .applyUpdate => "apply_update"

/-- The phase with a name. -/
def ofName? (text : String) : Option Phase := all.find? fun phase => phase.name == text

end Phase

/-- Why a request to the API server fails. -/
inductive RequestFault where
  /-- The server refuses with a status. -/
  | status (code : Nat) (reason message : String)
  /-- The connection fails. -/
  | service (text : String)
  /-- The answer has no end. -/
  | endless
  /-- The answer is not what was asked for, as is seen at a column of its only line. -/
  | unreadable (fault : Json.ReadFault) (column : Nat)
  /-- The request names no object and is not made. -/
  | unnamed
  /-- A name in the request has no place in a target, and the request is not made. -/
  | badTarget (fault : Http.TargetFault)
deriving DecidableEq, Repr

/-- The words for a request's fault. -/
def RequestFault.message : RequestFault -> String
  | .status code reason message =>
    "ApiError: " ++ message ++ ": " ++ reason ++
      " (ErrorResponse \x7b status: \"Failure\", message: " ++ Text.quoted message ++
      ", reason: " ++ Text.quoted reason ++ ", code: " ++ toString code ++ " \x7d)"
  | .service text => "ServiceError: " ++ text
  | .endless => "Error finding newline character"
  | .unreadable fault column =>
    "Error deserializing response: " ++ fault.message ++ " at line 1 column " ++ toString column
  | .unnamed =>
    "Failed to build request: failed to validate request: A non-empty name is required"
  | .badTarget fault => "Failed to build request: failed to build request: " ++ fault.message

/-- What is wrong with a configuration. -/
inductive ConfigFault where
  | noClusterId
  | noResync
  | noImage
  | noDomain
  | registeredTwice (version : String)
  | other (text : String)
deriving DecidableEq, Repr

/-- The words for a fault of a configuration. -/
def ConfigFault.message : ConfigFault -> String
  | .noClusterId => "cluster id is required"
  | .noResync => "resync period must be greater than zero"
  | .noImage => "kvm image must not be empty"
  | .noDomain => "ingress domain must not be empty"
  | .registeredTwice version =>
    "resources for version bundle '" ++ version ++ "' registered twice"
  | .other text => text

/-- Why a text does not become an object again. -/
inductive SerializationFault where
  | notJson (fault : Json.TextFault)
  | wrongShape (fault : Json.ReadFault)
  | other (text : String)
deriving DecidableEq, Repr

/-- The words for a fault of serialization. -/
def SerializationFault.message : SerializationFault -> String
  | .notJson fault => fault.message
  | .wrongShape fault => fault.message
  | .other text => text

/-- Why objects do not merge. -/
inductive MergeFault where
  | notObject (fault : Json.MergeFault)
  | other (text : String)
deriving DecidableEq, Repr

/-- The words for a fault of a merge. -/
def MergeFault.message : MergeFault -> String
  | .notObject fault => fault.message
  | .other text => text

/-- Why a reconciliation fails as a whole. -/
inductive ReconcileFault where
  | addFinalizer (fault : RequestFault)
  | removeFinalizer (fault : RequestFault)
  | unnamedObject
  | invalidFinalizer
  | other (text : String)
deriving DecidableEq, Repr

/-- The words for a failed reconciliation. -/
def ReconcileFault.message : ReconcileFault -> String
  | .addFinalizer fault => "failed to add finalizer: " ++ fault.message
  | .removeFinalizer fault => "failed to remove finalizer: " ++ fault.message
  | .unnamedObject => "object has no name"
  | .invalidFinalizer => "invalid finalizer"
  | .other text => text

/-- Why an operation fails. -/
inductive Failure where
  | request (fault : RequestFault)
  | invalidConfig (fault : ConfigFault)
  | invalidCluster (summary : String)
  | unknownResourceType (expected : Kind) (actual : String)
  | invalidVersionBundle (version : String)
  | inPhase (resource : String) (phase : Phase) (cause : Failure)
  | serialization (fault : SerializationFault)
  | yaml (text : String)
  | mergePatch (fault : MergeFault)
  | reconcile (fault : ReconcileFault)
deriving DecidableEq, Repr

namespace Failure

/-- The words for a failure. -/
def message : Failure -> String
  | .request fault => "Kubernetes API error: " ++ fault.message
  | .invalidConfig fault => "Invalid configuration: " ++ fault.message
  | .invalidCluster summary => "Validation error: " ++ summary
  | .unknownResourceType expected actual =>
    "unknown resource type: expected " ++ expected.name ++ ", got " ++ actual
  | .invalidVersionBundle version =>
    "invalid version bundle version '" ++ version ++ "': no resources registered"
  | .inPhase resource phase cause =>
    "resource " ++ resource ++ " failed in phase " ++ phase.name ++ ": " ++ cause.message
  | .serialization fault => "Serialization error: " ++ fault.message
  | .yaml text => "YAML serialization error: " ++ text
  | .mergePatch fault => "merge patch error: " ++ fault.message
  | .reconcile fault => "Reconciliation failed: " ++ fault.message

/-- The words for what stands behind a failure, if something else does. -/
def sourceMessage : Failure -> Option String
  | .request fault => some fault.message
  | .inPhase _ _ cause => some cause.message
  | .serialization fault => some fault.message
  | .yaml text => some text
  | _ => none

/-- The failure may pass: a conflict, a server under strain, a broken connection. -/
def isRetryable : Failure -> Bool
  | .inPhase _ _ cause => cause.isRetryable
  | .request (.status code reason _) =>
    (code == 409 && reason != "AlreadyExists") || code == 429 || decide (code ≥ 500)
  | .request _ => true
  | .reconcile _ => true
  | _ => false

/-- The object does not exist. -/
def isNotFound : Failure -> Bool
  | .inPhase _ _ cause => cause.isNotFound
  | .request (.status code _ _) => code == 404
  | _ => false

/-- The object exists already. -/
def isAlreadyExists : Failure -> Bool
  | .inPhase _ _ cause => cause.isAlreadyExists
  | .request (.status code reason _) => code == 409 && reason == "AlreadyExists"
  | _ => false

/-- The object was written by someone else since it was read. -/
def isConflict : Failure -> Bool
  | .inPhase _ _ cause => cause.isConflict
  | .request (.status code reason _) => code == 409 && reason == "Conflict"
  | _ => false

/-- The failure for an object that does not exist. -/
def notFound (kind : Kind) (name : String) : Failure :=
  .request (.status 404 "NotFound" (kind.name ++ " \"" ++ name ++ "\" not found"))

/-- The failure for an object that exists already. -/
def alreadyExists (kind : Kind) (name : String) : Failure :=
  .request (.status 409 "AlreadyExists" (kind.name ++ " \"" ++ name ++ "\" already exists"))

/-- The failure for an object that changed since it was read. -/
def conflict : Failure :=
  .request (.status 409 "Conflict"
    "the object has been modified; please apply your changes to the latest version")

/-- The failure that a store was told to answer with. -/
def injected (code : Nat) (reason name : String) : Failure :=
  .request (.status code reason ("injected failure for " ++ name))

end Failure

end GuestFleet
