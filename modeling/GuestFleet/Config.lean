import GuestFleet.Manifest.Blueprint
import GuestFleet.Reconcile.Backoff

/-!
# Configuration

What the operator is told once, when it starts.
-/

namespace GuestFleet

/-- The configuration of the operator. -/
structure Config where
  /-- The namespace whose clusters it looks after; all of them if there is none. -/
  namespaceName : Option String := none
  /-- How long it rests after a good pass. -/
  resync : Time.Span := .ofSeconds 300
  retry : RetryPolicy := .standard
  manifests : ManifestSettings := {}
deriving DecidableEq, Repr

namespace Config

/-- What is wrong with a configuration, the first cause if there are several. -/
def fault? (config : Config) : Option ConfigFault :=
  if config.resync.isZero then some .noResync
  else if Text.isBlankText config.manifests.image then some .noImage
  else if Text.isBlankText config.manifests.ingressDomain then some .noDomain
  else none

/-- Refuses a configuration with a fault. -/
def check (config : Config) : Except Failure Unit :=
  match config.fault? with
  | some fault => .error (.invalidConfig fault)
  | none => .ok ()

end Config

end GuestFleet
