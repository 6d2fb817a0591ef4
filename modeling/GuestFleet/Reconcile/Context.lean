import GuestFleet.Store.Program

/-!
# The context of a pass

What the steps of one pass share: why the pass runs, whether it is to stop, and which
config maps it has replaced. A new pass begins with a new context.
-/

namespace GuestFleet

/-- Why a pass runs. -/
inductive Event where
  /-- The object was added or changed, or its time has come again. -/
  | apply
  /-- The object goes away. -/
  | delete
deriving DecidableEq, Repr

/-- The name of an event. -/
def Event.name : Event -> String
  | .apply => "apply"
  | .delete => "delete"

/-- The event with a name. -/
def Event.ofName? (text : String) : Option Event :=
  [Event.apply, Event.delete].find? fun event => event.name == text

/-- What the steps of a pass share. -/
structure Context where
  event : Event := .apply
  /-- The pass is to stop before its next phase. -/
  cancelled : Bool := false
  /-- The names of replaced config maps in increasing order. -/
  updatedConfigMaps : List String := []
deriving DecidableEq, Repr

namespace Context

/-- The context after the pass was told to stop. -/
def cancel (context : Context) : Context := { context with cancelled := true }

/-- A name put in its place among names in increasing order. -/
def insertName (name : String) : List String -> List String
  | [] => [name]
  | n :: names =>
    if name = n then n :: names
    else if name < n then name :: n :: names
    else n :: insertName name names

/-- The context after a config map was replaced. -/
def noteConfigMap (context : Context) (name : String) : Context :=
  { context with updatedConfigMaps := insertName name context.updatedConfigMaps }

/-- The config map was replaced in this pass. -/
def isUpdated (context : Context) (name : String) : Bool :=
  context.updatedConfigMaps.contains name

end Context

/-- A part of a pass. It may fail, and what it leaves in the context stays even then. -/
abbrev Work (m : Type -> Type) := ExceptT Failure (StateT Context m)

namespace Work

/-- A request as a part of a pass. -/
def ofRequest [Monad m] (request : ExceptT Failure m α) : Work m α :=
  ExceptT.mk (StateT.lift request.run)

/-- The pass was told to stop. -/
def isCancelled [Monad m] : Work m Bool := do return (<- getThe Context).cancelled

/-- Names the resource and the phase in a failure. -/
def inPhase [Monad m] (resource : String) (phase : Phase) (work : Work m α) : Work m α :=
  ExceptT.adapt (.inPhase resource phase) work

end Work

end GuestFleet
