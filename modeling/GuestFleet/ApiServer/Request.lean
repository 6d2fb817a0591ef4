import GuestFleet.Store.Program

/-!
# Requests of the API server

What the operator sends to an API server. Objects have paths made of the API group of
their kind, their namespace and their name.
-/

namespace GuestFleet.ApiServer

open Kube (Kind Object)

/-- The methods of requests. -/
inductive Method where
  | get
  | post
  | put
  | patch
  | delete
deriving DecidableEq, Repr

/-- The name of a method. -/
def Method.name : Method -> String
  | .get => "GET"
  | .post => "POST"
  | .put => "PUT"
  | .patch => "PATCH"
  | .delete => "DELETE"

/-- A request. -/
structure HttpRequest where
  method : Method
  target : String
  body : Option Json := none

/-- The path of a collection of objects in a namespace, or in all of them. -/
def collectionPath (apiVersion plural : String) (space : Option String) : String :=
  (if apiVersion = "v1" then "/api/" else "/apis/") ++ apiVersion ++
    (match space with
      | some space => "/namespaces/" ++ space
      | none => "") ++
    "/" ++ plural

/-- The namespace that counts for objects of a kind. -/
def scopeOf (kind : Kind) (space : Option String) : Option String :=
  if kind.isNamespaced then space else none

/-- The objects of a kind in a namespace or in all of them, or the one with a name. -/
structure Route where
  kind : Kind
  space : Option String
  name : Option String := none
deriving DecidableEq, Repr

namespace Route

/-- The path of a route. -/
def path (route : Route) : String :=
  collectionPath route.kind.apiVersion route.kind.plural (scopeOf route.kind route.space) ++
    (match route.name with
      | some name => "/" ++ name
      | none => "")

/-- The start of a text that is cut by a question mark or a number sign. -/
def cut? (text : String) : Option String :=
  let start := text.toList.takeWhile fun c => c != '?' && c != '#'
  if start.length = text.length then none else some (String.ofList start)

/-- What a server finds under the path of a route. A name that is cut leaves a shorter one,
and the name of a namespace that is cut leaves the path of a namespace. -/
def found (route : Route) : Route :=
  match (scopeOf route.kind route.space).bind cut? with
  | some space => ⟨.namespace, none, some space⟩
  | none =>
    { route with
      space := scopeOf route.kind route.space
      name := route.name.map fun name => (cut? name).getD name }

end Route

/-- The path of the clusters in a namespace. -/
def clustersPath (space : String) : String :=
  collectionPath Cluster.apiVersion "kvmclusters" (some space)

/-- The path of a change of a cluster; its status has a path of its own. -/
def clusterPath (space name : String) : ClusterPatch -> String
  | .status _ => clustersPath space ++ "/" ++ name ++ "/status"
  | _ => clustersPath space ++ "/" ++ name

/-- What a deletion says about the grace. -/
def deletionBody (grace : Option Nat) : Json :=
  .object (Json.optional "gracePeriodSeconds" (fun seconds => .integer (Int.ofNat seconds)) grace)

namespace HttpRequest

/-- Asks for an object. -/
def get (route : Route) : HttpRequest := { method := .get, target := route.path }

/-- The parameter that a label selector travels in. -/
def selectorParameter : String := "labelSelector"

/-- Asks for the objects that a selector selects. -/
def list (route : Route) (selector : String) : HttpRequest :=
  { method := .get
    target := route.path ++ "?" ++ selectorParameter ++ "=" ++ Http.Target.encode selector }

/-- Sends a new object. -/
def create {kind : Kind} (object : Object kind) : HttpRequest :=
  { method := .post
    target := (Route.mk kind object.metadata.namespaceName none).path ++ "?"
    body := some object.toJson }

/-- Sends an object in place of the one with its name. -/
def replace {kind : Kind} (object : Object kind) : HttpRequest :=
  { method := .put
    target := (Route.mk kind object.metadata.namespaceName (some object.name)).path ++ "?"
    body := some object.toJson }

/-- Takes an object away. -/
def delete (route : Route) (grace : Option Nat) : HttpRequest :=
  { method := .delete, target := route.path ++ "?", body := some (deletionBody grace) }

/-- Changes a cluster. -/
def patch (space name : String) (patch : ClusterPatch) : HttpRequest :=
  { method := .patch, target := clusterPath space name patch ++ "?", body := some patch.body }

end HttpRequest

end GuestFleet.ApiServer
