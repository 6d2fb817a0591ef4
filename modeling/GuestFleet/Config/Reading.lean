import GuestFleet.Config
import GuestFleet.Json.Fields

/-!
# Reading configurations

Configurations as objects with fields that may be left out. Spans of time are lists of
seconds and nanoseconds.
-/

namespace GuestFleet

open Json (Fielded)
open Time (Span)

/-- Seconds and the nanoseconds beyond them. -/
def Time.Span.toJson (span : Span) : Json :=
  .array [.integer span.seconds, .integer span.fraction]

/-- A span from seconds and nanoseconds. -/
def Time.Span.ofJson? : Json -> Option Span
  | .array [.integer seconds, .integer nanoseconds] =>
    some ⟨seconds.toNat * Span.second + nanoseconds.toNat⟩
  | _ => none

/-- A span with a usual value. -/
def Json.spanFieldOr (request : Json) (name : String) (usual : Span) : Span :=
  ((request.field? name).bind Span.ofJson?).getD usual

/-- Settings of manifests from the fields of an object. -/
def ManifestSettings.ofFields (fields : Json) : Fielded ManifestSettings := do
  let usual : ManifestSettings := {}
  return {
    image := <- fields.textFieldOr "kvm_image" usual.image
    ingressDomain := <- fields.textFieldOr "ingress_domain" usual.ingressDomain
    storageClass := <- fields.optionalTextField "storage_class"
    etcdVolumeSize := <- fields.textFieldOr "etcd_volume_size" usual.etcdVolumeSize
    etcdHostPath := <- fields.textFieldOr "etcd_host_path" usual.etcdHostPath
    clusterRole := <- fields.textFieldOr "cluster_role" usual.clusterRole
    pspClusterRole := <- fields.textFieldOr "psp_cluster_role" usual.pspClusterRole }

/-- Settings of manifests in the field `config`, which may be left out. -/
def ManifestSettings.ofRequest (request : Json) : Fielded ManifestSettings :=
  ofFields ((request.field? "config").getD .null)

/-- A share, which may be one of the texts `NaN`, `inf` and `-inf`. -/
def Number.Binary64.ofJson? : Json -> Option Number.Binary64
  | .real value => some value
  | .integer value => some (.ofFloat (Float.ofInt value))
  | .string "NaN" => some ⟨0x7ff8000000000000⟩
  | .string "inf" => some ⟨0x7ff0000000000000⟩
  | .string "-inf" => some ⟨0xfff0000000000000⟩
  | _ => none

/-- A retry policy from the fields of an object. -/
def RetryPolicy.ofFields (fields : Json) : RetryPolicy :=
  { maxRetries := fields.naturalFieldOr "max_retries" standard.maxRetries
    baseDelay := fields.spanFieldOr "base" standard.baseDelay
    maxDelay := fields.spanFieldOr "max" standard.maxDelay
    jitter := ((fields.field? "jitter").bind Number.Binary64.ofJson?).getD standard.jitter }

/-- A retry policy in the field `retry`; without it, three retries at once. -/
def RetryPolicy.ofRequest (request : Json) : RetryPolicy :=
  match request.field? "retry" with
  | some fields => ofFields fields
  | none => fixed 3 .zero

/-- A configuration from the fields of a request. -/
def Config.ofRequest (request : Json) : Fielded Config := do
  return {
    namespaceName := <- request.optionalTextField "watch_namespace"
    resync := request.spanFieldOr "resync" (.ofSeconds 300)
    retry := .ofRequest request
    manifests := <- ManifestSettings.ofRequest request }

end GuestFleet
