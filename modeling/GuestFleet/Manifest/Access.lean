import GuestFleet.Manifest.Blueprint

/-!
# Namespaces and rights

The namespace of a cluster, the service account of its pods, and the roles bound to
that account.
-/

namespace GuestFleet.Blueprint

open Kube (Object Subject)

/-- The namespace that holds the other objects. -/
def namespaceObject (b : Blueprint) : Object .namespace :=
  ⟨clusterWide b.cluster.namespaceName (b.cluster.labels operatorApp), {}⟩

/-- The account of the cluster's pods. -/
def serviceAccount (b : Blueprint) : Object .serviceAccount :=
  ⟨b.namespaced b.cluster.serviceAccountName (b.cluster.labels operatorApp), {}⟩

/-- The account as the one that a role is granted to. -/
def subject (b : Blueprint) : Subject :=
  { kind := "ServiceAccount"
    name := b.cluster.serviceAccountName
    namespaceName := some b.cluster.namespaceName }

/-- A binding of a role to the account. -/
def roleBinding (b : Blueprint) (name role : String) : Object .clusterRoleBinding :=
  ⟨clusterWide name (b.cluster.labels operatorApp),
    { roleRef := ⟨"rbac.authorization.k8s.io", "ClusterRole", role⟩
      subjects := some [b.subject] }⟩

/-- The general binding and the one for the pod security policy. -/
def roleBindings (b : Blueprint) : List (Object .clusterRoleBinding) :=
  [b.roleBinding b.cluster.roleBindingName b.settings.clusterRole,
    b.roleBinding b.cluster.pspRoleBindingName b.settings.pspClusterRole]

end GuestFleet.Blueprint
