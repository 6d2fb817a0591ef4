import GuestFleet.Metrics.Event
import GuestFleet.Metrics.Versions

/-!
# The metrics registry

Events kept as series: counters, gauges and the sizes of histograms, each under a name
and labels in the order of their names.
-/

namespace GuestFleet.Metrics

/-- A name and labels. -/
structure Series where
  name : String
  labels : List (String × String)
deriving DecidableEq, Repr

/-- The name, and the labels in braces. -/
def Series.text (series : Series) : String :=
  series.name ++ "\x7b" ++
    String.intercalate "," (series.labels.map fun (label, value) => label ++ "=" ++ value) ++
    "\x7d"

/-- What a series holds. -/
inductive Measure where
  | number (value : Nat)
  /-- A time that was taken. -/
  | time
deriving DecidableEq, Repr

/-- The series of the operator and the versions in use. -/
structure Registry where
  /-- What every name starts with. -/
  stem : String := "kvm_operator"
  inUse : VersionsInUse := []
  series : List (Series × Measure) := []

/-- The value of a measure; times differ from run to run and are not shown. -/
def Measure.toJson : Measure -> Json
  | .number value => .integer value
  | .time => .string "*"

namespace Registry

/-- Every series with its value. -/
def toJson (registry : Registry) : Json :=
  .ofMembers (registry.series.map fun (series, measure) => (series.text, measure.toJson))

/-- The name of a metric. -/
def name (registry : Registry) (metric : String) : String := registry.stem ++ "_" ++ metric

/-- The registry with a series set to a value. -/
def put (registry : Registry) (series : Series) (value : Measure) : Registry :=
  { registry with
    series := (series, value) :: registry.series.filter fun entry => entry.1 != series }

/-- The registry with one more in a series. -/
def increment (registry : Registry) (series : Series) : Registry :=
  match List.lookup series registry.series with
  | some (.number n) => registry.put series (.number (n + 1))
  | _ => registry.put series (.number 1)

/-- The gauge of a version. -/
def versionSeries (registry : Registry) (kind : String) (version : Version) : Series :=
  ⟨registry.name "version_bundle_version_total",
    [("kind", kind), ("major", toString version.major), ("minor", toString version.minor),
      ("patch", toString version.patch)]⟩

/-- Takes up the versions seen in a scope; also the counts that were reported. -/
def observe (registry : Registry) (scope : Scope) (texts : List (Option String)) :
    Counts × Registry :=
  let inUse := registry.inUse.set scope (.ofTexts texts)
  let reported := registry.inUse.reported inUse scope
  let gauged := reported.foldl
    (fun registry entry =>
      registry.put (registry.versionSeries scope.kind entry.1) (.number entry.2))
    registry
  (reported, { gauged with inUse := inUse })

/-- Takes up an event. -/
def record (registry : Registry) : Event -> Registry
  | .passStarted controller =>
    registry.increment ⟨registry.name "reconciliations_total", [("controller", controller)]⟩
  | .passFailed controller =>
    registry.increment
      ⟨registry.name "reconciliation_errors_total", [("controller", controller)]⟩
  | .passEnded controller =>
    registry.increment
      ⟨registry.name "reconciliation_duration_seconds", [("controller", controller)]⟩
  | .acted space kind action =>
    let labels := [("action", action), ("kind", kind), ("namespace", space)]
    (registry.increment ⟨registry.name "resource_action_total", labels⟩).put
      ⟨registry.name "resource_action_milliseconds", labels⟩ .time
  | .phaseFailed kind phase =>
    registry.increment
      ⟨registry.name "resource_error_total", [("kind", kind), ("phase", phase)]⟩
  | .seen kind space texts => (registry.observe ⟨kind, space⟩ texts).2

/-- The forms of metrics. -/
inductive Form where
  | counter
  | gauge
  | histogram
deriving DecidableEq, Repr

/-- The name of a form. -/
def Form.name : Form -> String
  | .counter => "counter"
  | .gauge => "gauge"
  | .histogram => "histogram"

/-- What a metric is about. -/
structure Description where
  form : Form
  metric : String
  unit : Option String
  text : String

/-- The form, the name, the unit and the text. -/
def Description.toJson (d : Description) : Json :=
  .array [.string d.form.name, .string d.metric, d.unit.elim .null .string, .string d.text]

/-- What the operator measures. -/
def descriptions (registry : Registry) : List Description :=
  [⟨.counter, registry.name "reconciliations_total", none,
      "Reconciliation passes started per controller"⟩,
    ⟨.counter, registry.name "reconciliation_errors_total", none,
      "Reconciliation passes that failed per controller"⟩,
    ⟨.histogram, registry.name "reconciliation_duration_seconds", some "seconds",
      "Duration of a reconciliation pass"⟩,
    ⟨.counter, registry.name "resource_action_total", none,
      "Creates, updates and deletes per namespace and kind"⟩,
    ⟨.gauge, registry.name "resource_action_milliseconds", some "milliseconds",
      "Duration of the last create, update or delete"⟩,
    ⟨.counter, registry.name "resource_error_total", none, "Failed resource phases per kind"⟩,
    ⟨.gauge, registry.name "version_bundle_version_total", none,
      "Live objects per kind and version bundle version"⟩]

end Registry

end GuestFleet.Metrics
