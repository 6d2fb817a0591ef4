import GuestFleet.ApiServer.Answer
import GuestFleet.Store.World

/-!
# An API server with a script

Collections of objects behind an API server. The server can be told to refuse requests
to come, and keeps a record of the requests that it got. It takes every change of a
cluster without making it.
-/

namespace GuestFleet.ApiServer

/-- A refusal to come: of requests with a method and a path that ends in a certain way. -/
structure Refusal where
  method : String
  pathEnd : String
  times : Nat
  code : Nat
  reason : String
deriving DecidableEq, Repr

namespace Refusal

/-- The refusal is meant for requests with a method and a path. -/
def concerns (refusal : Refusal) (method : Method) (path : String) : Bool :=
  decide (0 < refusal.times) && refusal.method == method.name && path.endsWith refusal.pathEnd

/-- Why the request fails. -/
def fault (refusal : Refusal) : RequestFault :=
  .status refusal.code refusal.reason "injected failure"

/-- The first refusal that is meant for a request, and the refusals that are left. -/
def take (method : Method) (path : String) : List Refusal -> Option (Refusal × List Refusal)
  | [] => none
  | refusal :: others =>
    if refusal.concerns method path then
      some (refusal, { refusal with times := refusal.times - 1 } :: others)
    else (take method path others).map fun (found, rest) => (found, refusal :: rest)

end Refusal

/-- A request, where it arrived and when, and the code of its answer. -/
structure Exchange where
  /-- The milliseconds on the clock. -/
  clock : Nat
  request : HttpRequest
  target : Http.Target
  code : Nat

/-- A request and its answer in a line. -/
def Exchange.text (exchange : Exchange) : String :=
  "t=" ++ toString (exchange.clock / 1000) ++ " " ++ exchange.request.method.name ++ " " ++
    exchange.target.path ++
    (match exchange.target.parameter? HttpRequest.selectorParameter with
      | some selector => "?" ++ HttpRequest.selectorParameter ++ "=" ++ selector
      | none => "") ++
    " -> " ++ toString exchange.code

end ApiServer

/-- An API server. -/
structure ApiServer where
  world : Store.World := {}
  refusals : List ApiServer.Refusal := []
  /-- The requests so far, the latest first. -/
  exchanges : List ApiServer.Exchange := []
  /-- The cluster that changes of clusters are answered with. -/
  cluster : Option Cluster := none

namespace ApiServer

open Kube (Kind Object)
open Store (World)

/-- The server with a request on record. -/
def noted (server : ApiServer) (request : HttpRequest) (target : Http.Target) (code : Nat) :
    ApiServer :=
  { server with exchanges := ⟨server.world.clock, request, target, code⟩ :: server.exchanges }

/-- Makes a request, which the server refuses or passes on. A request without a proper target
does not reach the server. -/
def exchange (request : HttpRequest) (failed : RequestFault -> Except ε α)
    (handle : ApiServer -> Except ε α × Nat × ApiServer) (server : ApiServer) :
    Except ε α × ApiServer :=
  match Http.Target.ofText request.target with
  | .error fault => (failed (.badTarget fault), server)
  | .ok target =>
    match Refusal.take request.method target.path server.refusals with
    | some (refusal, others) =>
      (failed refusal.fault,
        { server.noted request target refusal.code with refusals := others })
    | none =>
      let (result, code, after) := handle server
      (result, after.noted request target code)

/-- Calls the collections for a request. -/
def call (request : HttpRequest) (success : Nat) (failed : RequestFault -> Except Failure α)
    (handle : World -> Except Failure α × World) : ApiServer -> Except Failure α × ApiServer :=
  exchange request failed fun server =>
    let (result, world) := handle server.world
    let after := { server with world := world }
    match result with
    | .ok value => (.ok value, success, after)
    | .error (.request (.status code reason message)) =>
      (failed (.status code reason message), code, after)
    | .error failure => (.error failure, 500, after)

/-- Requests for one object need a name. -/
def requireName (name : String) (fault : RequestFault -> ε)
    (handle : ApiServer -> Except ε α × ApiServer) (server : ApiServer) :
    Except ε α × ApiServer :=
  if name.isEmpty then (.error (fault .unnamed), server) else handle server

/-- The failure of a request for an object. -/
def noObject (kind : Kind) (fault : RequestFault) : Except Failure α :=
  .error (.request (reread (misreadObject kind) fault))

/-- The failure of a request for a list. -/
def noList (fault : RequestFault) : Except Failure α :=
  .error (.request (reread misreadList fault))

/-- The failure of a change of a cluster. -/
def noCluster (fault : RequestFault) : Except RequestFault α :=
  .error (reread misreadCluster fault)

/-- Asks for something that the path of a route leads away from, and gets an object of
another kind. -/
def askAstray (request : HttpRequest) (found : Route) (misread : Json -> RequestFault)
    (server : ApiServer) : Except Failure α × ApiServer :=
  let (result, after) :=
    call request 200 (fun fault => .error (.request (reread misread fault)))
      (World.answer (.get found.kind found.space (found.name.getD ""))) server
  (result.bind fun object => .error (.request (misread object.toJson)), after)

/-- Asks for an object. -/
def ask (kind : Kind) (space : Option String) (name : String) :
    ApiServer -> Except Failure (Object kind) × ApiServer :=
  let route : Route := ⟨kind, space, some name⟩
  let found := route.found
  if found.kind = kind then
    call (.get route) 200 (noObject kind)
      (World.answer (.get kind found.space (found.name.getD "")))
  else askAstray (.get route) found (misreadObject kind)

/-- Asks for the objects that a selector selects. -/
def askMany (kind : Kind) (space : Option String) (selector : String) :
    ApiServer -> Except Failure (List (Object kind)) × ApiServer :=
  let route : Route := ⟨kind, space, none⟩
  let found := route.found
  if found.kind = kind then
    call (.list route selector) 200 noList (World.answer (.list kind found.space selector))
  else askAstray (.list route selector) found misreadList

/-- Has an object taken away. -/
def askToDelete (kind : Kind) (space : Option String) (name : String) (grace : Option Nat) :
    ApiServer -> Except Failure Unit × ApiServer :=
  let route : Route := ⟨kind, space, some name⟩
  let found := route.found
  call (.delete route grace) 200 deleted
    (World.answer (.delete found.kind found.space (found.name.getD "") grace))

/-- The answer to a change of a cluster, which is the cluster. -/
def clusterAnswer (server : ApiServer) : Except RequestFault Unit :=
  match server.cluster with
  | some _ => .ok ()
  | none => .error (.unreadable (.wrongType .null "struct KvmCluster") 4)

/-- Lets the surroundings answer a command that does not go to the server. -/
def within (command : Command) (server : ApiServer) : command.Reply × ApiServer :=
  let (reply, world) := World.answer command server.world
  (reply, { server with world := world })

/-- Answers a command. -/
def answer : (command : Command) -> ApiServer -> command.Reply × ApiServer
  | .get kind space name => requireName name .request (ask kind space name)
  | .list kind space selector => askMany kind space selector
  | .create kind object =>
    call (.create object) 201 (noObject kind) (World.answer (.create kind object))
  | .replace kind object =>
    requireName object.name .request
      (call (.replace object) 200 (noObject kind) (World.answer (.replace kind object)))
  | .delete kind space name grace =>
    requireName name .request (askToDelete kind space name grace)
  | .patchCluster space name patch =>
    requireName name id
      (exchange (.patch space name patch) noCluster fun server =>
        (server.clusterAnswer, 200, server))
  | .now => within .now
  | .pause span => within (.pause span)
  | .record event => within (.record event)

/-- Lets time pass up to a reading of the clock. -/
def waitUntil (clock : Nat) (server : ApiServer) : ApiServer :=
  { server with world := server.world.waitUntil clock }

end ApiServer

end GuestFleet
