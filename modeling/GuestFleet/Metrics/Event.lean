/-!
# Metric events

What the operator counts and measures while it works, as events that say what happened
and leave the bookkeeping to a registry.
-/

namespace GuestFleet.Metrics

/-- Something that is counted or measured. -/
inductive Event where
  /-- A pass of a controller began. -/
  | passStarted (controller : String)
  /-- A pass of a controller failed. -/
  | passFailed (controller : String)
  /-- A pass of a controller is over. -/
  | passEnded (controller : String)
  /-- Objects were created, deleted or updated. -/
  | acted (space kind action : String)
  /-- A phase failed. -/
  | phaseFailed (kind phase : String)
  /-- Objects of a kind were seen in a namespace, each with the text of its version if it
  has one. -/
  | seen (kind space : String) (versions : List (Option String))
deriving DecidableEq, Repr

end GuestFleet.Metrics
