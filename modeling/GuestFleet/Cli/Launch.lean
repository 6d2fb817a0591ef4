import GuestFleet.Cli.LogFilter
import GuestFleet.Cli.Usage
import GuestFleet.Cluster.Definition
import GuestFleet.Config

/-!
# Launching the operator

What the arguments and the environment make of a launch: a text to print, a refusal, or
the configuration to start with and the record that is logged for it.
-/

namespace GuestFleet.Cli

/-! ## Options -/

/-- Where metrics are served. -/
def metricsAddrFlag : Flag :=
  { name := "metrics-addr", placeholder := some "METRICS_ADDR", type := .address
    variableName := some "METRICS_ADDR", usual := some "0.0.0.0:8080"
    help := "Metrics server address" }

/-- Where probes are answered. -/
def healthAddrFlag : Flag :=
  { name := "health-addr", placeholder := some "HEALTH_ADDR", type := .address
    variableName := some "HEALTH_ADDR", usual := some "0.0.0.0:8081"
    help := "Health probe address" }

/-- Whose clusters are looked after. -/
def namespaceFlag : Flag :=
  { name := "namespace", placeholder := some "NAMESPACE", type := .text
    variableName := some "WATCH_NAMESPACE", usual := some ""
    help := "Namespace to watch for KvmClusters (empty for cluster-wide)" }

/-- How much is logged. -/
def logLevelFlag : Flag :=
  { name := "log-level", placeholder := some "LOG_LEVEL", type := .level
    variableName := some "LOG_LEVEL", usual := some "info"
    help := "Log level (trace, debug, info, warn, error)" }

/-- Records are logged as JSON. -/
def logJsonFlag : Flag :=
  { name := "log-json", variableName := some "LOG_JSON", usual := some "false"
    help := "Enable JSON log format" }

/-- The rest after a good pass. -/
def resyncFlag : Flag :=
  { name := "resync-period-secs", placeholder := some "RESYNC_PERIOD_SECS", type := .count64
    variableName := some "RESYNC_PERIOD_SECS", usual := some "300"
    help := "Seconds between resyncs of a healthy cluster" }

/-- The retries of a phase. -/
def maxRetriesFlag : Flag :=
  { name := "max-retries", placeholder := some "MAX_RETRIES", type := .count32
    variableName := some "MAX_RETRIES", usual := some "3"
    help := "Retries of a failing resource phase before the pass is aborted" }

/-- The image of the nodes. -/
def kvmImageFlag : Flag :=
  { name := "kvm-image", placeholder := some "KVM_IMAGE", type := .text
    variableName := some "KVM_IMAGE"
    help := "Image of the container running the node VMs" }

/-- The domain of the guests' ingresses. -/
def ingressDomainFlag : Flag :=
  { name := "ingress-domain", placeholder := some "INGRESS_DOMAIN", type := .text
    variableName := some "INGRESS_DOMAIN"
    help := "Base domain of guest API and etcd ingresses" }

/-- The storage class of etcd. -/
def storageClassFlag : Flag :=
  { name := "storage-class", placeholder := some "STORAGE_CLASS", type := .text
    variableName := some "STORAGE_CLASS"
    help := "Storage class of master etcd volumes" }

/-- Only prints the definition of clusters. -/
def printCrdFlag : Flag := { name := "print-crd", help := "Print CRD YAML and exit" }

/-- The operator as a program. -/
def operator : Tool :=
  { name := "kvm-operator"
    version := "0.1.0"
    about := "Kubernetes operator provisioning KVM based guest clusters"
    flags :=
      [metricsAddrFlag, healthAddrFlag, namespaceFlag, logLevelFlag, logJsonFlag, resyncFlag,
        maxRetriesFlag, kvmImageFlag, ingressDomainFlag, storageClassFlag, printCrdFlag] }

/-! ## Settings -/

namespace Given

/-- The text of an option's value, or its usual one. -/
def textOr (given : Given) (flag : Flag) : String :=
  (given.value? flag).getD (flag.usual.getD "")

/-- The number of an option's value. -/
def number (given : Given) (flag : Flag) : Nat :=
  match readNumber 0 0xffffffffffffffff (given.textOr flag) with
  | .ok value => value.toNat
  | .error _ => 0

/-- The option is on. -/
def isOn (given : Given) (flag : Flag) : Bool := given.textOr flag == "true"

/-- The address of an option's value. -/
def address? (given : Given) (flag : Flag) : Option Address := Address.ofText? (given.textOr flag)

/-- The configuration that is given. -/
def config (given : Given) : Config :=
  let usual : ManifestSettings := {}
  let space := given.textOr namespaceFlag
  { namespaceName := if space.isEmpty then none else some space
    resync := .ofSeconds (given.number resyncFlag)
    retry := { RetryPolicy.standard with maxRetries := given.number maxRetriesFlag }
    manifests :=
      { usual with
        image := (given.value? kvmImageFlag).getD usual.image
        ingressDomain := (given.value? ingressDomainFlag).getD usual.ingressDomain
        storageClass := given.value? storageClassFlag } }

/-- The filter of the log: one that the environment names goes before the level. -/
def logFilter (given : Given) (environment : Environment) : LogFilter :=
  match (environment.value? "RUST_LOG").bind LogFilter.ofText? with
  | some filter => filter
  | none => .ofLevel ((LogLevel.ofText? (given.textOr logLevelFlag)).getD .info)

end Given

/-! ## Launches -/

/-- The variable is there and not empty. -/
def Environment.isSet (environment : Environment) (name : String) : Bool :=
  (environment.value? name).any fun value => !value.isEmpty

/-- A styled text as it is printed. Nothing is printed on a terminal from here, so that
styles are left out unless the environment asks for them. -/
def Environment.onTerminal (environment : Environment) (text : String) : String :=
  if environment.isSet "CLICOLOR_FORCE" && !environment.isSet "NO_COLOR" then text
  else Text.Terminal.plain text

/-- How records are logged. -/
structure LogStyle where
  filter : LogFilter
  json : Bool
deriving DecidableEq, Repr

/-- What becomes of a launch. -/
inductive Launch where
  /-- It prints a text, and that is all. -/
  | printed (text : String)
  /-- The command line is wrong. -/
  | misused (fault : UsageFault)
  /-- The configuration is wrong. -/
  | refused (failure : Failure)
  /-- The operator starts, but cannot listen where metrics are to be served. -/
  | unheard (config : Config) (style : LogStyle) (metrics : Address)
  /-- The operator starts. -/
  | started (config : Config) (style : LogStyle)

namespace Launch

/-- The launch that arguments and an environment make. -/
def of (environment : Environment) (arguments : List String) : Launch :=
  match operator.read environment arguments with
  | .error .help => .printed (environment.onTerminal (operator.help environment))
  | .error .version => .printed operator.versionText
  | .error (.fault fault) => .misused fault
  | .ok given =>
    if given.isOn printCrdFlag then .printed Cluster.Definition.document
    else
      match given.config.check with
      | .error failure => .refused failure
      | .ok _ =>
        let style := ⟨given.logFilter environment, given.isOn logJsonFlag⟩
        match given.address? metricsAddrFlag with
        | some metrics =>
          if metrics.host.isCommon then .started given.config style
          else .unheard given.config style metrics
        | none => .started given.config style

/-- What a launch prints. -/
def output : Launch -> String
  | .printed text => text
  | _ => ""

/-- A complaint and what it comes of. -/
def because (complaint reason : String) : String :=
  "Error: " ++ complaint ++ "\n\nCaused by:\n    " ++ reason ++ "\n"

/-- What a launch says when it ends. There is no API server to talk to from here, so that
a start ends where the connection is made. -/
def complaint (environment : Environment) : Launch -> String
  | .printed _ => ""
  | .misused fault => environment.onTerminal (fault.message operator)
  | .refused failure => because "Invalid operator configuration" failure.message
  | .unheard _ _ metrics =>
    because ("Failed to install Prometheus exporter on " ++ metrics.text)
      "failed to create HTTP listener: Cannot assign requested address (os error 99)"
  | .started _ _ => "Error: Failed to create Kubernetes client\n"

/-- The exit code of a launch. -/
def exitCode : Launch -> Nat
  | .printed _ => 0
  | .misused _ => 2
  | .refused _ => 1
  | .unheard _ _ _ => 1
  | .started _ _ => 1

/-- The target of the operator's records. -/
def target : String := "kvm_operator"

/-- What the record about a start says. -/
def startMessage : String := "Starting KVM Kubernetes Operator"

/-- The members of the record about a start. -/
def startMembers (config : Config) : List (String × Json) :=
  [("version", .string operator.version),
    ("namespace", .string (config.namespaceName.getD "all")),
    ("resync_secs", .integer config.resync.seconds),
    ("max_retries", .integer config.retry.maxRetries),
    ("kvm_image", .string config.manifests.image),
    ("ingress_domain", .string config.manifests.ingressDomain)]

/-- The record about a start. -/
def startRecord : LogRecord :=
  ⟨.info, target, ["message", "version", "namespace", "resync_secs", "max_retries", "kvm_image",
    "ingress_domain"]⟩

/-- The other records of a start: the metrics are served, and there is no connection. -/
def otherRecords : List LogRecord :=
  [⟨.info, target, ["message", "address"]⟩, ⟨.trace, "kube_client::config", ["message", "error"]⟩]

/-- The record about a start as JSON. -/
def startJson (config : Config) : Json :=
  .ofMembers
    ([("level", .string "INFO"), ("message", .string startMessage), ("target", .string target)] ++
      startMembers config)

/-- What a launch starts with and how it logs, if it gets as far. -/
def begun? : Launch -> Option (Config × LogStyle)
  | .unheard config style _ => some (config, style)
  | .started config style => some (config, style)
  | _ => none

/-- The records that a launch has for its log. -/
def records : Launch -> List LogRecord
  | .unheard _ _ _ => [startRecord]
  | .started _ _ => startRecord :: otherRecords
  | _ => []

/-- The launch logs something. -/
def isLogged (launch : Launch) : Bool :=
  match launch.begun? with
  | some (_, style) => launch.records.any style.filter.isEnabled
  | none => false

/-- What a launch starts with and whether it logs that as JSON, if it logs it. -/
def logged? (launch : Launch) : Option (Config × Bool) :=
  launch.begun?.bind fun (config, style) =>
    if style.filter.isEnabled startRecord then some (config, style.json) else none

/-- The records about a start that are logged as JSON. -/
def jsonRecords (launch : Launch) : List Json :=
  match launch.logged? with
  | some (config, true) => [startJson config]
  | _ => []

/-- The lines about a start that are logged. -/
def logLines (launch : Launch) : List String :=
  match launch.logged? with
  | some (config, true) => [(startJson config).text]
  | some (config, false) =>
    ["INFO " ++ target ++ ": " ++ startMessage ++
      String.join ((startMembers config).map fun (name, value) => " " ++ name ++ "=" ++ value.text)]
  | none => []

end Launch

end GuestFleet.Cli
