import GuestFleet.Json.Printer
import GuestFleet.Text.Blank

/-!
# Health probes

The answers to two questions: whether the operator is alive, which it is if it answers,
and whether it is ready, which it is while all of its controllers run.
-/

namespace GuestFleet.Health

/-- The controllers in the order of their names, and whether they run. -/
abbrev Readiness := List (String × Bool)

namespace Readiness

/-- The readiness with a controller that runs or does not. -/
def set (controller : String) (running : Bool) : Readiness -> Readiness
  | [] => [(controller, running)]
  | (c, r) :: rest =>
    if controller = c then (controller, running) :: rest
    else if controller < c then (controller, running) :: (c, r) :: rest
    else (c, r) :: set controller running rest

/-- Controllers none of which runs yet. -/
def ofControllers (controllers : List String) : Readiness :=
  controllers.foldl (fun readiness controller => readiness.set controller false) []

/-- There are controllers, and all of them run. -/
def isReady (readiness : Readiness) : Bool := !readiness.isEmpty && readiness.all Prod.snd

/-- The controllers that do not run, in the order of their names. -/
def waitingFor (readiness : Readiness) : List String :=
  (readiness.filter fun entry => !entry.2).map Prod.fst

end Readiness

/-- A response with a status and a JSON body. -/
def response (status : String) (body : Json) : String :=
  let text := body.text
  "HTTP/1.1 " ++ status ++ "\r\nContent-Type: application/json\r\nContent-Length: " ++
    toString text.utf8ByteSize ++ "\r\nConnection: close\r\n\r\n" ++ text

/-- The response to the first line of a request. -/
def respond (readiness : Readiness) (requestLine : String) : String :=
  match (Text.words requestLine.toList).map String.ofList with
  | "GET" :: "/healthz" :: _ => response "200 OK" (.object [("status", .string "ok")])
  | "GET" :: "/readyz" :: _ =>
    if readiness.isReady then response "200 OK" (.object [("ready", .bool true)])
    else
      response "503 Service Unavailable"
        (.object [("ready", .bool false),
          ("waitingFor", .array (readiness.waitingFor.map .string))])
  | _ => response "404 Not Found" (.object [("error", .string "not found")])

end GuestFleet.Health
