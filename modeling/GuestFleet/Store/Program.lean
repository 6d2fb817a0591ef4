import GuestFleet.Cluster.Patch
import GuestFleet.Failure
import GuestFleet.Kube.Object
import GuestFleet.Metrics.Event
import GuestFleet.Time.Span

/-!
# Programs

What the operator does to its surroundings, as trees of commands. A program knows
nothing of who carries out its commands, so that one and the same program runs on
objects in memory, on an API server, or step by step between the writes of others.
-/

namespace GuestFleet

open Kube (Kind Object)

/-- Something that the operator asks of its surroundings. -/
inductive Command where
  | get (kind : Kind) (space : Option String) (name : String)
  | list (kind : Kind) (space : Option String) (selector : String)
  | create (kind : Kind) (object : Object kind)
  | replace (kind : Kind) (object : Object kind)
  | delete (kind : Kind) (space : Option String) (name : String) (grace : Option Nat)
  /-- Changes a cluster, in the namespace that it lives in. -/
  | patchCluster (space name : String) (patch : ClusterPatch)
  | now
  | pause (span : Time.Span)
  | record (event : Metrics.Event)

/-- What a command is answered with. -/
abbrev Command.Reply : Command -> Type
  | .get kind _ _ => Except Failure (Object kind)
  | .list kind _ _ => Except Failure (List (Object kind))
  | .create kind _ => Except Failure (Object kind)
  | .replace kind _ => Except Failure (Object kind)
  | .delete _ _ _ _ => Except Failure Unit
  | .patchCluster _ _ _ => Except RequestFault Unit
  | .now => Time.Instant
  | .pause _ => Unit
  | .record _ => Unit

/-- A tree of commands: a result, or a command and what follows each reply to it. -/
inductive Program (α : Type) where
  | done (value : α)
  | step (command : Command) (next : command.Reply -> Program α)

namespace Program

/-- A program followed by another one that depends on its result. -/
def bind : Program α -> (α -> Program β) -> Program β
  | .done value, following => following value
  | .step command next, following => .step command fun reply => (next reply).bind following

instance : Monad Program where
  pure := .done
  bind := bind

/-- A single command. -/
def perform (command : Command) : Program command.Reply := .step command .done

/-- What comes out of a program when every command is answered by `answer`, which may
change a state. -/
def run (answer : (command : Command) -> σ -> command.Reply × σ) : Program α -> σ -> α × σ
  | .done value, state => (value, state)
  | .step command next, state =>
    let (reply, state) := answer command state
    run answer (next reply) state

/-- It does not matter how three programs in a row are grouped. -/
theorem bind_assoc (p : Program α) (f : α -> Program β) (g : β -> Program γ) :
    (p.bind f).bind g = p.bind fun a => (f a).bind g := by
  induction p with
  | done value => rfl
  | step command next ih => simp only [bind, ih]

/-- A program with nothing after it is that program. -/
theorem bind_done (p : Program α) : p.bind .done = p := by
  induction p with
  | done value => rfl
  | step command next ih => simp only [bind, ih]

instance : LawfulMonad Program :=
  LawfulMonad.mk' Program bind_done (fun _ _ => rfl) bind_assoc

end Program

/-- Surroundings in which time can pass. -/
class Pauses (m : Type -> Type) where
  /-- Lets a span of time pass. -/
  pause : Time.Span -> m Unit

/-- Surroundings that take up metric events. -/
class Records (m : Type -> Type) where
  /-- Takes up an event. -/
  record : Metrics.Event -> m Unit

instance : Pauses Program := ⟨fun span => .perform (.pause span)⟩

instance : Records Program := ⟨fun event => .perform (.record event)⟩

instance [Monad m] [Pauses m] : Pauses (StateT σ m) := ⟨fun span => StateT.lift (Pauses.pause span)⟩

instance [Monad m] [Records m] : Records (StateT σ m) :=
  ⟨fun event => StateT.lift (Records.record event)⟩

/-- A program that may fail. -/
abbrev Request := ExceptT Failure Program

namespace Request

/-- The object with a name. -/
def get (kind : Kind) (space : Option String) (name : String) : Request (Object kind) :=
  Program.perform (.get kind space name)

/-- The objects that a selector selects. -/
def list (kind : Kind) (space : Option String) (selector : String) :
    Request (List (Object kind)) :=
  Program.perform (.list kind space selector)

/-- Writes a new object. -/
def create {kind : Kind} (object : Object kind) : Request (Object kind) :=
  Program.perform (.create kind object)

/-- Writes an object in place of the one with its name. -/
def replace {kind : Kind} (object : Object kind) : Request (Object kind) :=
  Program.perform (.replace kind object)

/-- Takes the object with a name away, after so many seconds of grace. -/
def delete (kind : Kind) (space : Option String) (name : String) (grace : Option Nat) :
    Request Unit :=
  Program.perform (.delete kind space name grace)

/-- The time. -/
def now : Request Time.Instant :=
  ExceptT.lift (Program.perform .now)

/-- Changes a cluster. -/
def patchCluster (space name : String) (patch : ClusterPatch) :
    ExceptT RequestFault Program Unit :=
  Program.perform (.patchCluster space name patch)

/-- A request with its failure as part of the result. -/
def attempt (request : Request α) : Request (Except Failure α) :=
  ExceptT.mk (Program.bind request.run fun result => .done (.ok result))

end Request

end GuestFleet
