/-!
# Kinds of objects

The nine kinds of Kubernetes objects that a guest cluster is made of, with the names
that the API server knows them by.
-/

namespace GuestFleet.Kube

/-- A kind of object. -/
inductive Kind where
  | namespace
  | serviceAccount
  | clusterRoleBinding
  | configMap
  | persistentVolumeClaim
  | deployment
  | ingress
  | service
  | pod
deriving DecidableEq, Repr

namespace Kind

/-- Every kind, in order. -/
def all : List Kind :=
  [.namespace, .serviceAccount, .clusterRoleBinding, .configMap, .persistentVolumeClaim,
    .deployment, .ingress, .service, .pod]

/-- The place of a kind in the order of kinds. -/
def rank : Kind -> Nat
  | .namespace => 0
  | .serviceAccount => 1
  | .clusterRoleBinding => 2
  | .configMap => 3
  | .persistentVolumeClaim => 4
  | .deployment => 5
  | .ingress => 6
  | .service => 7
  | .pod => 8

/-- The name in the member `kind`. -/
def name : Kind -> String
  | .namespace => "Namespace"
  | .serviceAccount => "ServiceAccount"
  | .clusterRoleBinding => "ClusterRoleBinding"
  | .configMap => "ConfigMap"
  | .persistentVolumeClaim => "PersistentVolumeClaim"
  | .deployment => "Deployment"
  | .ingress => "Ingress"
  | .service => "Service"
  | .pod => "Pod"

/-- The label of a kind in metrics. -/
def label : Kind -> String
  | .namespace => "namespace"
  | .serviceAccount => "serviceaccount"
  | .clusterRoleBinding => "clusterrolebinding"
  | .configMap => "configmap"
  | .persistentVolumeClaim => "persistentvolumeclaim"
  | .deployment => "deployment"
  | .ingress => "ingress"
  | .service => "service"
  | .pod => "pod"

/-- The API group and version in the member `apiVersion`. -/
def apiVersion : Kind -> String
  | .clusterRoleBinding => "rbac.authorization.k8s.io/v1"
  | .deployment => "apps/v1"
  | .ingress => "networking.k8s.io/v1"
  | _ => "v1"

/-- The collection of the kind in request paths. -/
def plural : Kind -> String
  | .namespace => "namespaces"
  | .serviceAccount => "serviceaccounts"
  | .clusterRoleBinding => "clusterrolebindings"
  | .configMap => "configmaps"
  | .persistentVolumeClaim => "persistentvolumeclaims"
  | .deployment => "deployments"
  | .ingress => "ingresses"
  | .service => "services"
  | .pod => "pods"

/-- Objects of the kind live in a namespace. -/
def isNamespaced : Kind -> Bool
  | .namespace => false
  | .clusterRoleBinding => false
  | _ => true

/-- The kind with a name. -/
def ofName? (text : String) : Option Kind :=
  all.find? fun kind => kind.name == text

end Kind

end GuestFleet.Kube
