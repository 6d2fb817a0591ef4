import GuestFleet.ApiServer.Server
import GuestFleet.Controller.Turn

/-!
# Watching

A controller at work on an API server. It gets news of the objects of its type and takes
a turn on every object that is new or has changed, and on every object whose time has
come again. While a turn pauses, turns on other objects go on; news of its own object that
comes during a turn is taken up after it.
-/

namespace GuestFleet

open Controller (Action FailureCounts)

/-- Something that a controller hears of an object. -/
inductive News (α : Type) where
  /-- The object is there, or has changed. -/
  | stored (object : α)
  /-- The object is gone. -/
  | removed (object : α)

/-- The object that news is about. -/
def News.object : News α -> α
  | .stored object => object
  | .removed object => object

/-- News and the milliseconds on the clock when it comes. -/
structure Notice (α : Type) where
  clock : Nat
  news : News α

/-- What tells an object from the others of its type. -/
structure Reference where
  space : Option String
  name : String
deriving DecidableEq, Repr

/-- A turn that has paused. -/
structure PausedTurn (α : Type) where
  object : α
  /-- The milliseconds on the clock when it goes on. -/
  clock : Nat
  rest : Program (Option (Except Failure Action))

/-- What is known of an object. -/
structure Watched (α : Type) where
  /-- The object as it was last, if it is there. -/
  object : Option α := none
  /-- The milliseconds on the clock when the next turn on it is due, if one is. -/
  due : Option Nat := none
  /-- The turn on it that has begun and not ended. -/
  turn : Option (PausedTurn α) := none

/-- When something happens to an object next: its turn goes on, or is due. -/
def Watched.next? (watched : Watched α) : Option Nat :=
  match watched.turn with
  | some turn => some turn.clock
  | none => watched.due

/-- Why a watch breaks down. -/
inductive WatchFault where
  /-- News came of an object that has no name. -/
  | unnamedObject
  /-- A turn was to come later than can be remembered. -/
  | restTooLong
  /-- A turn was to pause for longer than is tenable. -/
  | pauseTooLong
deriving DecidableEq, Repr

/-- A controller at work. -/
structure Watch (α : Type) where
  known : List (Reference × Watched α) := []
  counts : FailureCounts := []
  server : ApiServer
  /-- The milliseconds on the clock when the latest turn that began was due. -/
  latest : Nat := 0

namespace Watch

/-- The milliseconds on the clock. -/
def clock (watch : Watch α) : Nat := watch.server.world.clock

/-- What is known of an object. -/
def watched (watch : Watch α) (reference : Reference) : Watched α :=
  (List.lookup reference watch.known).getD {}

/-- What is known, with something else known of one object. -/
def put (reference : Reference) (watched : Watched α) :
    List (Reference × Watched α) -> List (Reference × Watched α)
  | [] => [(reference, watched)]
  | (r, w) :: rest =>
    if reference = r then (reference, watched) :: rest else (r, w) :: put reference watched rest

/-- The watch with something else known of one object. -/
def knowing (watch : Watch α) (reference : Reference) (watched : Watched α) : Watch α :=
  { watch with known := put reference watched watch.known }

/-- Takes news up. A change makes a turn due at once, in place of one that is due later. -/
def hear (controller : Controller α) (watch : Watch α) (news : News α) :
    Except WatchFault (Watch α) :=
  let metadata := controller.metadata news.object
  match metadata.name with
  | none => .error .unnamedObject
  | some name =>
    let reference : Reference := ⟨metadata.namespaceName, name⟩
    let watched := watch.watched reference
    match news with
    | .stored object =>
      .ok (watch.knowing reference { watched with object := some object, due := some watch.clock })
    | .removed _ => .ok (watch.knowing reference { watched with object := none })

/-- The earlier of two moments, of which either may be missing. -/
def earlier? : Option Nat -> Option Nat -> Option Nat
  | some a, some b => some (min a b)
  | a, none => a
  | none, b => b

/-- When something happens next. -/
def next? (watch : Watch α) (notices : List (Notice α)) : Option Nat :=
  watch.known.foldl (fun clock entry => earlier? clock entry.2.next?)
    (notices.head?.map fun notice => notice.clock)

/-- How far a program has come. -/
inductive Progress (α : Type) where
  | ended (result : α)
  /-- It goes on when so many milliseconds are on the clock. -/
  | paused (clock : Nat) (rest : Program α)
  /-- It wants to pause for longer than is tenable. -/
  | stuck

/-- Runs a program up to its end or to a pause that takes time. -/
def advance : Program α -> ApiServer -> Progress α × ApiServer
  | .done result, server => (.ended result, server)
  | .step (.pause span) next, server =>
    if !span.isTenable then (.stuck, server)
    else if span.pauseMilliseconds = 0 then advance (next ()) server
    else (.paused (server.world.clock + span.pauseMilliseconds) (next ()), server)
  | .step command next, server =>
    let (reply, server) := server.answer command
    advance (next reply) server

/-- The most milliseconds that a turn can be put off. -/
def longestRest : Nat := 0xfffffffff

/-- When the next turn on an object is due after one that has ended. A change that came in
the meantime goes before what the turn wants. -/
def dueAfter (watch : Watch α) (due : Option Nat) : Action -> Except WatchFault (Option Nat)
  | .awaitChange => .ok due
  | .requeue rest =>
    match due with
    | some due => .ok (some due)
    | none =>
      let clock := watch.clock + rest.milliseconds
      if clock - watch.latest ≤ longestRest then .ok (some clock) else .error .restTooLong

/-- Goes on with a turn on an object. -/
def goOn (controller : Controller α) (watch : Watch α) (reference : Reference) (object : α)
    (rest : Program (Option (Except Failure Action))) : Except WatchFault (Watch α) :=
  let watched := watch.watched reference
  match advance rest watch.server with
  | (.paused clock rest, server) =>
    .ok ({ watch with server := server }.knowing reference
      { watched with turn := some ⟨object, clock, rest⟩ })
  | (.stuck, _) => .error .pauseTooLong
  | (.ended result, server) =>
    let (action, counts) := controller.decide watch.counts object result
    (watch.dueAfter watched.due action).map fun due =>
      { watch with server := server, counts := counts }.knowing reference
        { watched with due := due, turn := none }

/-- Takes the turn on an object if it is due, or goes on with it if its pause is over. -/
def visit (controller : Controller α) (watch : Watch α) (reference : Reference) :
    Except WatchFault (Watch α) :=
  let watched := watch.watched reference
  match watched.turn, watched.due, watched.object with
  | some turn, _, _ =>
    if turn.clock ≤ watch.clock then goOn controller watch reference turn.object turn.rest
    else .ok watch
  | none, some due, object =>
    if watch.clock < due then .ok watch
    else
      let watch :=
        { watch with latest := due }.knowing reference { watched with due := none }
      match object with
      | some object => goOn controller watch reference object (controller.turn object)
      | none => .ok watch
  | none, none, _ => .ok watch

/-- Goes on up to a deadline, for at most so many moments at which something happens. -/
def steps (controller : Controller α) (deadline : Nat) :
    Nat -> List (Notice α) -> Watch α -> Except WatchFault (Watch α)
  | 0, _, watch => .ok watch
  | fuel + 1, notices, watch =>
    match watch.next? notices with
    | none => .ok watch
    | some clock =>
      if deadline ≤ max clock watch.clock then .ok watch
      else do
        let watch := { watch with server := watch.server.waitUntil clock }
        let isHeard (notice : Notice α) := decide (notice.clock ≤ watch.clock)
        let watch <- (notices.takeWhile isHeard).foldlM
          (fun watch notice => hear controller watch notice.news) watch
        let watch <- (watch.known.map Prod.fst).foldlM (visit controller) watch
        steps controller deadline fuel (notices.dropWhile isHeard) watch

/-- Moments up to a deadline: if no rest is empty, there is one in each millisecond, and one
more for a change that came during a turn. -/
def enough (deadline : Nat) (notices : List (Notice α)) : Nat :=
  (deadline + 2) * (notices.length + 2)

/-- Goes on up to a deadline. -/
def run (controller : Controller α) (deadline : Nat) (notices : List (Notice α))
    (watch : Watch α) : Except WatchFault (Watch α) :=
  steps controller deadline (enough deadline notices) notices watch

end Watch

end GuestFleet
