import GuestFleet.Kube.Metadata

/-!
# Namespaces, service accounts and role bindings

The parts, apart from metadata, of the objects that give a guest cluster its place
and its rights.
-/

namespace GuestFleet.Kube

/-- A namespace has a phase once the API server has taken it up. -/
structure NamespaceStatus where
  phase : Option String := none
deriving DecidableEq, Repr

/-- A namespace apart from its metadata. -/
structure NamespaceBody where
  status : Option NamespaceStatus := none
deriving DecidableEq, Repr

/-- The JSON form of a namespace status. -/
def NamespaceStatus.codec : Json.Codec NamespaceStatus :=
  .record "NamespaceStatus" {}
    [.optional "phase" .text (·.phase) fun s value => { s with phase := value }]

/-- The members of a namespace. -/
def NamespaceBody.members : List (Json.Member NamespaceBody) :=
  [.optional "status" NamespaceStatus.codec (·.status) fun b value => { b with status := value }]

/-- A reference to a secret. -/
structure SecretReference where
  name : Option String := none
deriving DecidableEq, Repr

/-- A service account apart from its metadata. -/
structure ServiceAccountBody where
  secrets : Option (List SecretReference) := none
deriving DecidableEq, Repr

/-- The JSON form of a secret reference. -/
def SecretReference.codec : Json.Codec SecretReference :=
  .record "ObjectReference" {}
    [.optional "name" .text (·.name) fun r value => { r with name := value }]

/-- The members of a service account. -/
def ServiceAccountBody.members : List (Json.Member ServiceAccountBody) :=
  [.optional "secrets" (.list SecretReference.codec) (·.secrets)
     fun b value => { b with secrets := value }]

/-- The role that a binding grants. -/
structure RoleRef where
  apiGroup : String := ""
  kind : String := ""
  name : String := ""
deriving DecidableEq, Repr

/-- One to whom a binding grants its role. -/
structure Subject where
  apiGroup : Option String := none
  kind : String := ""
  name : String := ""
  namespaceName : Option String := none
deriving DecidableEq, Repr

/-- A cluster role binding apart from its metadata. -/
structure ClusterRoleBindingBody where
  roleRef : RoleRef := {}
  subjects : Option (List Subject) := none
deriving DecidableEq, Repr

/-- The JSON form of a role reference. -/
def RoleRef.codec : Json.Codec RoleRef :=
  .record "RoleRef" {}
    [.needed "apiGroup" .text "" (·.apiGroup) fun r value => { r with apiGroup := value },
     .needed "kind" .text "" (·.kind) fun r value => { r with kind := value },
     .needed "name" .text "" (·.name) fun r value => { r with name := value }]

/-- The JSON form of a subject. -/
def Subject.codec : Json.Codec Subject :=
  .record "Subject" {}
    [.optional "apiGroup" .text (·.apiGroup) fun s value => { s with apiGroup := value },
     .needed "kind" .text "" (·.kind) fun s value => { s with kind := value },
     .needed "name" .text "" (·.name) fun s value => { s with name := value },
     .optional "namespace" .text (·.namespaceName) fun s value => { s with namespaceName := value }]

/-- The members of a cluster role binding. -/
def ClusterRoleBindingBody.members : List (Json.Member ClusterRoleBindingBody) :=
  [.needed "roleRef" RoleRef.codec {} (·.roleRef) fun b value => { b with roleRef := value },
   .optional "subjects" (.list Subject.codec) (·.subjects)
     fun b value => { b with subjects := value }]

end GuestFleet.Kube
