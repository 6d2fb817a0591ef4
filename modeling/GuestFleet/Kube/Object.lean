import GuestFleet.Kube.Kind
import GuestFleet.Kube.Access
import GuestFleet.Kube.Storage
import GuestFleet.Kube.Workload
import GuestFleet.Kube.Network

/-!
# Objects

An object of a kind is its metadata and a body that depends on the kind, so that what
concerns metadata alone is said once for all kinds.
-/

namespace GuestFleet.Kube

open Json (Read)

/-- The part of an object that depends on its kind. A pod is its metadata alone. -/
abbrev Body : Kind -> Type
  | .namespace => NamespaceBody
  | .serviceAccount => ServiceAccountBody
  | .clusterRoleBinding => ClusterRoleBindingBody
  | .configMap => ConfigMapBody
  | .persistentVolumeClaim => ClaimBody
  | .deployment => DeploymentBody
  | .ingress => IngressBody
  | .service => ServiceBody
  | .pod => Unit

namespace Body

instance decEq : (kind : Kind) -> DecidableEq (Body kind)
  | .namespace => inferInstanceAs (DecidableEq NamespaceBody)
  | .serviceAccount => inferInstanceAs (DecidableEq ServiceAccountBody)
  | .clusterRoleBinding => inferInstanceAs (DecidableEq ClusterRoleBindingBody)
  | .configMap => inferInstanceAs (DecidableEq ConfigMapBody)
  | .persistentVolumeClaim => inferInstanceAs (DecidableEq ClaimBody)
  | .deployment => inferInstanceAs (DecidableEq DeploymentBody)
  | .ingress => inferInstanceAs (DecidableEq IngressBody)
  | .service => inferInstanceAs (DecidableEq ServiceBody)
  | .pod => inferInstanceAs (DecidableEq Unit)

/-- A body with nothing set. -/
def empty : (kind : Kind) -> Body kind
  | .namespace => ({} : NamespaceBody)
  | .serviceAccount => ({} : ServiceAccountBody)
  | .clusterRoleBinding => ({} : ClusterRoleBindingBody)
  | .configMap => ({} : ConfigMapBody)
  | .persistentVolumeClaim => ({} : ClaimBody)
  | .deployment => ({} : DeploymentBody)
  | .ingress => ({} : IngressBody)
  | .service => ({} : ServiceBody)
  | .pod => ()

/-- The members of a body, in key order. -/
def members : (kind : Kind) -> List (Json.Member (Body kind))
  | .namespace => NamespaceBody.members
  | .serviceAccount => ServiceAccountBody.members
  | .clusterRoleBinding => ClusterRoleBindingBody.members
  | .configMap => ConfigMapBody.members
  | .persistentVolumeClaim => ClaimBody.members
  | .deployment => DeploymentBody.members
  | .ingress => IngressBody.members
  | .service => ServiceBody.members
  | .pod => []

end Body

/-- An object of a kind. -/
structure Object (kind : Kind) where
  metadata : Metadata
  body : Body kind
deriving DecidableEq

/-- What tells objects apart: the kind, the namespace if there is one, and the name. -/
structure Key where
  kind : Kind
  namespaceName : Option String
  name : String
deriving DecidableEq, Repr

namespace Key

/-- The kind, the namespace and the name between slashes. -/
def text (key : Key) : String :=
  match key.namespaceName with
  | some space => key.kind.name ++ "/" ++ space ++ "/" ++ key.name
  | none => key.kind.name ++ "/" ++ key.name

/-- Absent before present, then by code points. -/
def optionLt : Option String -> Option String -> Bool
  | none, some _ => true
  | some a, some b => decide (a < b)
  | _, none => false

/-- The order by kind, then namespace, then name. -/
def lt (a b : Key) : Bool :=
  if a.kind.rank ≠ b.kind.rank then decide (a.kind.rank < b.kind.rank)
  else if a.namespaceName ≠ b.namespaceName then optionLt a.namespaceName b.namespaceName
  else decide (a.name < b.name)

end Key

namespace Object

variable {kind : Kind}

instance : Inhabited (Object kind) := ⟨⟨{}, Body.empty kind⟩⟩

/-- The name, empty if there is none. -/
def name (object : Object kind) : String := object.metadata.name.getD ""

/-- The key of an object. -/
def key (object : Object kind) : Key := ⟨kind, object.metadata.namespaceName, object.name⟩

/-- The members apart from those that name the type, in key order. -/
def fields (object : Object kind) : Json.Members :=
  Json.Members.insert "metadata" (Metadata.codec.write object.metadata)
    (Json.Member.written (Body.members kind) object.body)

/-- The object as a JSON value. -/
def toJson (object : Object kind) : Json :=
  .object (Json.Members.insert "apiVersion" (.string kind.apiVersion)
    (Json.Members.insert "kind" (.string kind.name) object.fields))

/-- The object as text: the members that name the type come first. -/
def text (object : Object kind) : String :=
  Json.text (.object
    (("apiVersion", .string kind.apiVersion) :: ("kind", .string kind.name) :: object.fields))

/-- A text that must be the given one. -/
def readExactly (expected : String) (value : Json) : Read Unit := do
  let text <- Json.readString value
  if text = expected then return () else throw (.wrongValue (.string text) expected)

/-- Takes up one member. -/
def readMember (object : Object kind) (key : String) (value : Json) : Read (Object kind) :=
  match key with
  | "apiVersion" => (readExactly kind.apiVersion value).map fun _ => object
  | "kind" => (readExactly kind.name value).map fun _ => object
  | "metadata" =>
    (Json.readOr {} Metadata.codec.read value).map ({ object with metadata := · })
  | key =>
    (Json.Member.take (Body.members kind) object.body key value).map ({ object with body := · })

/-- An object of a kind from a JSON value. The type may go unnamed. -/
def read (kind : Kind) : Json -> Read (Object kind) :=
  Json.readRecord kind.name (fun (object : Object kind) => object.readMember) default

end Object

end GuestFleet.Kube
