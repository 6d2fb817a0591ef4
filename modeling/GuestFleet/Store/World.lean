import GuestFleet.Metrics.Registry
import GuestFleet.Store.Collection
import GuestFleet.Store.Program

/-!
# Surroundings in memory

A collection for every kind of object, a clock that moves only when a program pauses, a
log of the calls, and a registry of metrics. Programs run on it command by command.
-/

namespace GuestFleet.Store

open Kube (Key Kind Object)

/-- A collection for every kind. -/
structure Collections where
  namespaces : Collection .namespace := {}
  serviceAccounts : Collection .serviceAccount := {}
  clusterRoleBindings : Collection .clusterRoleBinding := {}
  configMaps : Collection .configMap := {}
  persistentVolumeClaims : Collection .persistentVolumeClaim := {}
  deployments : Collection .deployment := {}
  ingresses : Collection .ingress := {}
  services : Collection .service := {}
  pods : Collection .pod := {}

namespace Collections

/-- The collection of a kind. -/
def get (all : Collections) : (kind : Kind) -> Collection kind
  | .namespace => all.namespaces
  | .serviceAccount => all.serviceAccounts
  | .clusterRoleBinding => all.clusterRoleBindings
  | .configMap => all.configMaps
  | .persistentVolumeClaim => all.persistentVolumeClaims
  | .deployment => all.deployments
  | .ingress => all.ingresses
  | .service => all.services
  | .pod => all.pods

/-- The collections with another one for a kind. -/
def set (all : Collections) : (kind : Kind) -> Collection kind -> Collections
  | .namespace, c => { all with namespaces := c }
  | .serviceAccount, c => { all with serviceAccounts := c }
  | .clusterRoleBinding, c => { all with clusterRoleBindings := c }
  | .configMap, c => { all with configMaps := c }
  | .persistentVolumeClaim, c => { all with persistentVolumeClaims := c }
  | .deployment, c => { all with deployments := c }
  | .ingress, c => { all with ingresses := c }
  | .service, c => { all with services := c }
  | .pod, c => { all with pods := c }

/-- The collection that was set is there. -/
@[simp] theorem get_set (all : Collections) (kind : Kind) (c : Collection kind) :
    (all.set kind c).get kind = c := by
  cases kind <;> rfl

/-- The collections of the other kinds are as before. -/
theorem get_set_of_ne (all : Collections) {kind other : Kind} (c : Collection kind)
    (ne : other ≠ kind) : (all.set kind c).get other = all.get other := by
  cases kind <;> cases other <;> first | rfl | exact absurd rfl ne

/-- Changes the collection of a kind and hands a result out of it. -/
def visit (all : Collections) (kind : Kind)
    (change : Collection kind -> α × Collection kind) : α × Collections :=
  let (result, c) := change (all.get kind)
  (result, all.set kind c)

end Collections

/-- A call of a collection and how it went. -/
structure Call where
  operation : Operation
  kind : Kind
  space : Option String
  /-- The name of the object, or the selector of a list. -/
  name : String
  /-- The size of a list that was answered, or why the call failed. -/
  result : Except Failure (Option Nat)
  grace : Option Nat

/-- The result of a call in a log. -/
def Call.resultText (call : Call) : String :=
  match call.result with
  | .ok none => "ok"
  | .ok (some size) => toString size
  | .error (.request (.status code reason _)) => toString code ++ " " ++ reason
  | .error failure => failure.message

/-- A call as a line of a log. -/
def Call.text (call : Call) : String :=
  call.operation.name ++ " " ++ call.kind.name ++ " " ++ call.space.getD "-" ++ "/" ++ call.name ++
    " -> " ++ call.resultText ++
    (match call.grace with
      | some grace => " grace=" ++ toString grace
      | none => "")

/-- All that programs run on. -/
structure World where
  collections : Collections := {}
  /-- The calls so far, the latest first. -/
  log : List Call := []
  /-- The milliseconds that have passed. -/
  clock : Nat := 0
  /-- Every pause so far was tenable. -/
  steady : Bool := true
  registry : Metrics.Registry := {}

namespace World

/-- Calls the collection of a kind and logs the call. -/
def call (world : World) (operation : Operation) (kind : Kind) (space : Option String)
    (name : String) (grace : Option Nat) (size : α -> Option Nat)
    (change : Collection kind -> Except Failure α × Collection kind) :
    Except Failure α × World :=
  let (result, collections) := world.collections.visit kind change
  let entry : Call := ⟨operation, kind, space, name, result.map size, grace⟩
  (result, { world with collections := collections, log := entry :: world.log })

/-- The time on the clock, which starts with the year 1970. -/
def time (world : World) : Time.Instant := ⟨world.clock / 1000, false⟩

/-- Lets time pass up to a reading of the clock. -/
def waitUntil (clock : Nat) (world : World) : World :=
  { world with clock := max world.clock clock }

/-- Answers a command. Clusters themselves are kept elsewhere, and every change of one is
taken. -/
def answer : (command : Command) -> World -> command.Reply × World
  | .get kind space name, world =>
    world.call .get kind space name none (fun _ => none) (Collection.get (.make space name))
  | .list kind space selector, world =>
    world.call .list kind space selector none (fun objects => some objects.length)
      (Collection.list space selector)
  | .create kind object, world =>
    world.call .create kind object.metadata.namespaceName object.name none (fun _ => none)
      (Collection.create object)
  | .replace kind object, world =>
    world.call .replace kind object.metadata.namespaceName object.name none (fun _ => none)
      (Collection.replace object)
  | .delete kind space name grace, world =>
    world.call .delete kind space name grace (fun _ => none)
      (Collection.delete (.make space name) grace)
  | .patchCluster _ _ _, world => (.ok (), world)
  | .now, world => (world.time, world)
  | .pause span, world =>
    ((), { world with
      clock := world.clock + span.pauseMilliseconds
      steady := world.steady && span.isTenable })
  | .record event, world => ((), { world with registry := world.registry.record event })

/-- Runs a program. -/
def run (world : World) (program : Program α) : α × World := program.run answer world

/-- Every object of a kind, in order. -/
def objects (world : World) (kind : Kind) : List (Object kind) :=
  (world.collections.get kind).objects.map Prod.snd

/-- Writes an object whatever is in its place. -/
def insert {kind : Kind} (object : Object kind) (world : World) : World :=
  { world with
    collections :=
      world.collections.set kind ((world.collections.get kind).insert object) }

/-- Orders failures for the next calls of an operation. -/
def failNext (kind : Kind) (times : Nat) (fault : Fault) (world : World) : World :=
  { world with
    collections :=
      world.collections.set kind ((world.collections.get kind).failNext times fault) }

end World

end GuestFleet.Store
