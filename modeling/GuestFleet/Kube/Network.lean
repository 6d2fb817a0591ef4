import GuestFleet.Kube.Metadata

/-!
# Services and ingresses

The parts, apart from metadata, of the objects through which a guest cluster is
reached.
-/

namespace GuestFleet.Kube

open Json (Read)

/-- A port given by its number or by its name. -/
inductive PortRef where
  | number (value : Int)
  | name (text : String)
deriving DecidableEq, Repr

namespace PortRef

/-- A number stays a number and a name a text. -/
def write : PortRef -> Json
  | .number value => .integer value
  | .name text => .string text

/-- A port from a text, or from a number of 32 bits. -/
def read : Json -> Read PortRef
  | .string text => .ok (.name text)
  | .integer value =>
    if -2147483648 ≤ value && value ≤ 2147483647 then .ok (.number value)
    else .error (.wrongValue (.integer value) "a 32-bit integer")
  | other => Json.mismatch other "IntOrString"

/-- The JSON form of a port. -/
def codec : Json.Codec PortRef := ⟨write, read⟩

end PortRef

/-- A port of a service. -/
structure ServicePort where
  appProtocol : Option String := none
  name : Option String := none
  nodePort : Option Int := none
  port : Int := 0
  protocol : Option String := none
  targetPort : Option PortRef := none
deriving DecidableEq, Repr

/-- The JSON form of a service port. -/
def ServicePort.codec : Json.Codec ServicePort :=
  .record "ServicePort" {}
    [.optional "appProtocol" .text (·.appProtocol) fun p value => { p with appProtocol := value },
     .optional "name" .text (·.name) fun p value => { p with name := value },
     .optional "nodePort" .int32 (·.nodePort) fun p value => { p with nodePort := value },
     .needed "port" .int32 0 (·.port) fun p value => { p with port := value },
     .optional "protocol" .text (·.protocol) fun p value => { p with protocol := value },
     .optional "targetPort" PortRef.codec (·.targetPort)
       fun p value => { p with targetPort := value }]

/-- How a service is reached and which pods serve it. -/
structure ServiceSpec where
  clusterIP : Option String := none
  clusterIPs : Option (List String) := none
  externalTrafficPolicy : Option String := none
  ports : Option (List ServicePort) := none
  selector : Option StringMap := none
  sessionAffinity : Option String := none
  type : Option String := none
deriving DecidableEq, Repr

/-- The JSON form of a service spec. -/
def ServiceSpec.codec : Json.Codec ServiceSpec :=
  .record "ServiceSpec" {}
    [.optional "clusterIP" .text (·.clusterIP) fun s value => { s with clusterIP := value },
     .optional "clusterIPs" (.list .text) (·.clusterIPs)
       fun s value => { s with clusterIPs := value },
     .optional "externalTrafficPolicy" .text (·.externalTrafficPolicy)
       fun s value => { s with externalTrafficPolicy := value },
     .optional "ports" (.list ServicePort.codec) (·.ports) fun s value => { s with ports := value },
     .optional "selector" .textMap (·.selector) fun s value => { s with selector := value },
     .optional "sessionAffinity" .text (·.sessionAffinity)
       fun s value => { s with sessionAffinity := value },
     .optional "type" .text (·.type) fun s value => { s with type := value }]

/-- A service apart from its metadata. -/
structure ServiceBody where
  spec : Option ServiceSpec := none
deriving DecidableEq, Repr

/-- The members of a service. -/
def ServiceBody.members : List (Json.Member ServiceBody) :=
  [.optional "spec" ServiceSpec.codec (·.spec) fun b value => { b with spec := value }]

/-- The port of a service behind an ingress. -/
structure BackendPort where
  number : Option Int := none
deriving DecidableEq, Repr

/-- The JSON form of a backend port. -/
def BackendPort.codec : Json.Codec BackendPort :=
  .record "ServiceBackendPort" {}
    [.optional "number" .int32 (·.number) fun p value => { p with number := value }]

/-- The service behind an ingress. -/
structure BackendService where
  name : String := ""
  port : Option BackendPort := none
deriving DecidableEq, Repr

/-- The JSON form of a backend service. -/
def BackendService.codec : Json.Codec BackendService :=
  .record "IngressServiceBackend" {}
    [.needed "name" .text "" (·.name) fun s value => { s with name := value },
     .optional "port" BackendPort.codec (·.port) fun s value => { s with port := value }]

/-- What is behind an ingress. -/
structure Backend where
  service : Option BackendService := none
deriving DecidableEq, Repr

/-- The JSON form of a backend. -/
def Backend.codec : Json.Codec Backend :=
  .record "IngressBackend" {}
    [.optional "service" BackendService.codec (·.service)
       fun b value => { b with service := value }]

/-- A path that an ingress serves. -/
structure IngressPath where
  backend : Backend := {}
  path : Option String := none
  pathType : String := ""
deriving DecidableEq, Repr

/-- The JSON form of an ingress path. -/
def IngressPath.codec : Json.Codec IngressPath :=
  .record "HTTPIngressPath" {}
    [.needed "backend" Backend.codec {} (·.backend) fun p value => { p with backend := value },
     .optional "path" .text (·.path) fun p value => { p with path := value },
     .needed "pathType" .text "" (·.pathType) fun p value => { p with pathType := value }]

/-- The paths of a host. -/
structure IngressPaths where
  paths : List IngressPath := []
deriving DecidableEq, Repr

/-- The JSON form of the paths of a host. -/
def IngressPaths.codec : Json.Codec IngressPaths :=
  .record "HTTPIngressRuleValue" {}
    [.needed "paths" (.list IngressPath.codec) [] (·.paths)
       fun p value => { p with paths := value }]

/-- What an ingress serves for a host. -/
structure IngressRule where
  host : Option String := none
  http : Option IngressPaths := none
deriving DecidableEq, Repr

/-- The JSON form of what an ingress serves for a host. -/
def IngressRule.codec : Json.Codec IngressRule :=
  .record "IngressRule" {}
    [.optional "host" .text (·.host) fun r value => { r with host := value },
     .optional "http" IngressPaths.codec (·.http) fun r value => { r with http := value }]

/-- The hosts that an ingress serves over TLS. -/
structure IngressTls where
  hosts : Option (List String) := none
  secretName : Option String := none
deriving DecidableEq, Repr

/-- The JSON form of a TLS entry of an ingress. -/
def IngressTls.codec : Json.Codec IngressTls :=
  .record "IngressTLS" {}
    [.optional "hosts" (.list .text) (·.hosts) fun t value => { t with hosts := value },
     .optional "secretName" .text (·.secretName) fun t value => { t with secretName := value }]

/-- What an ingress serves. -/
structure IngressSpec where
  ingressClassName : Option String := none
  rules : Option (List IngressRule) := none
  tls : Option (List IngressTls) := none
deriving DecidableEq, Repr

/-- The JSON form of an ingress spec. -/
def IngressSpec.codec : Json.Codec IngressSpec :=
  .record "IngressSpec" {}
    [.optional "ingressClassName" .text (·.ingressClassName)
       fun s value => { s with ingressClassName := value },
     .optional "rules" (.list IngressRule.codec) (·.rules) fun s value => { s with rules := value },
     .optional "tls" (.list IngressTls.codec) (·.tls) fun s value => { s with tls := value }]

/-- An address of a load balancer. -/
structure BalancerAddress where
  ip : Option String := none
deriving DecidableEq, Repr

/-- The JSON form of an address of a load balancer. -/
def BalancerAddress.codec : Json.Codec BalancerAddress :=
  .record "IngressLoadBalancerIngress" {}
    [.optional "ip" .text (·.ip) fun a value => { a with ip := value }]

/-- The addresses of a load balancer. -/
structure Balancer where
  ingress : Option (List BalancerAddress) := none
deriving DecidableEq, Repr

/-- The JSON form of the addresses of a load balancer. -/
def Balancer.codec : Json.Codec Balancer :=
  .record "IngressLoadBalancerStatus" {}
    [.optional "ingress" (.list BalancerAddress.codec) (·.ingress)
       fun b value => { b with ingress := value }]

/-- Where an ingress is reached. -/
structure IngressStatus where
  loadBalancer : Option Balancer := none
deriving DecidableEq, Repr

/-- The JSON form of an ingress status. -/
def IngressStatus.codec : Json.Codec IngressStatus :=
  .record "IngressStatus" {}
    [.optional "loadBalancer" Balancer.codec (·.loadBalancer)
       fun s value => { s with loadBalancer := value }]

/-- An ingress apart from its metadata. -/
structure IngressBody where
  spec : Option IngressSpec := none
  status : Option IngressStatus := none
deriving DecidableEq, Repr

/-- The members of an ingress. -/
def IngressBody.members : List (Json.Member IngressBody) :=
  [.optional "spec" IngressSpec.codec (·.spec) fun b value => { b with spec := value },
   .optional "status" IngressStatus.codec (·.status) fun b value => { b with status := value }]

end GuestFleet.Kube
