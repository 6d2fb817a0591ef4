import GuestFleet.Failure
import GuestFleet.Json.Fields

/-!
# Reading failures

Failures described by an object whose field `type` names the cause. They stand for what
goes wrong elsewhere, such as the answers of an API server.
-/

namespace GuestFleet.Failure

open Json (Fielded)

/-- A described failure that nests less than so deep. -/
def ofNested : Nat -> Json -> Fielded Failure
  | 0, _ => throw (.unknown "source")
  | depth + 1, fields => do
    let text := fields.textField "text"
    match <- fields.textField "type" with
    | "api" =>
      return .request (.status (fields.naturalFieldOr "code" 500)
        (<- fields.textFieldOr "reason" "") (<- fields.textFieldOr "message" ""))
    | "kube_service" => return .request (.service (<- text))
    | "kube_lines" => return .request .endless
    | "invalid_config" => return .invalidConfig (.other (<- text))
    | "validation" => return .invalidCluster (<- text)
    | "invalid_version_bundle" => return .invalidVersionBundle (<- text)
    | "merge_patch" => return .mergePatch (.other (<- text))
    | "reconcile_failed" => return .reconcile (.other (<- text))
    | "json" => return .serialization (.other (<- text))
    | "yaml" => return .yaml (<- text)
    | "unknown_resource_type" =>
      match Kube.Kind.ofName? (<- fields.textField "expected") with
      | some kind => return .unknownResourceType kind (<- fields.textField "actual")
      | none => throw (.unknown "kind")
    | "resource" =>
      let resource <- fields.textField "resource"
      let phase <- fields.namedField "phase" Phase.ofName?
      return .inPhase resource phase (<- ofNested depth (<- fields.fieldValue "source"))
    | _ => throw (.unknown "error type")

/-- A described failure. -/
def ofDescription (description : Json) : Fielded Failure := ofNested 200 description

end GuestFleet.Failure
