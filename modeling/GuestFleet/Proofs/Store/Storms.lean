import GuestFleet.Proofs.Store.Calls
import GuestFleet.Store.World

/-!
# Failures that come at any time

Failures are ordered before a program runs, or while it runs, before any of its commands. A
storm is a schedule of such orders. What may fail in a run is what was awaited at the start and
what the storm brings; a world that awaits all of it at once stands for whichever part of it is
awaited between two commands.
-/

namespace GuestFleet.Store

open Kube (Kind)

/-! ## Failures to come -/

/-- The collections with failures to come, in place of those that were. -/
def Collections.awaiting (all : Collections) (faults : Kind -> List Fault) : Collections where
  namespaces := { all.namespaces with faults := faults .namespace }
  serviceAccounts := { all.serviceAccounts with faults := faults .serviceAccount }
  clusterRoleBindings := { all.clusterRoleBindings with faults := faults .clusterRoleBinding }
  configMaps := { all.configMaps with faults := faults .configMap }
  persistentVolumeClaims :=
    { all.persistentVolumeClaims with faults := faults .persistentVolumeClaim }
  deployments := { all.deployments with faults := faults .deployment }
  ingresses := { all.ingresses with faults := faults .ingress }
  services := { all.services with faults := faults .service }
  pods := { all.pods with faults := faults .pod }

/-- Only the failures to come are others. -/
theorem Collections.get_awaiting (all : Collections) (faults : Kind -> List Fault) (kind : Kind) :
    (all.awaiting faults).get kind = { all.get kind with faults := faults kind } := by
  cases kind <;> rfl

/-- The world with failures to come, kind by kind. -/
def World.awaiting (faults : Kind -> List Fault) (world : World) : World :=
  { world with collections := world.collections.awaiting faults }

/-- Of each kind only the failures to come are others. -/
theorem World.get_awaiting (world : World) (faults : Kind -> List Fault) (kind : Kind) :
    (world.awaiting faults).collections.get kind =
      { world.collections.get kind with faults := faults kind } :=
  world.collections.get_awaiting faults kind

/-- No failure is awaited but such as may come. -/
def World.Faces (world : World) (hazards : Kind -> List Fault) : Prop :=
  ∀ kind, (world.collections.get kind).faults ⊆ hazards kind

/-- A collection of which nothing may fail awaits nothing. -/
theorem World.Faces.get {world : World} {hazards : Kind -> List Fault}
    (faces : world.Faces hazards) {kind : Kind} (none : hazards kind = []) :
    (world.awaiting hazards).collections.get kind = world.collections.get kind := by
  have own : (world.collections.get kind).faults = hazards kind := by
    rw [none]
    exact List.subset_nil.1 (none ▸ faces kind)
  rw [World.get_awaiting, ← own]

/-- What is awaited is no part of what is stored. -/
theorem World.alike_awaiting (world : World) (hazards : Kind -> List Fault) (kind : Kind) :
    ((world.awaiting hazards).collections.get kind).Alike (world.collections.get kind) := by
  rw [World.get_awaiting]
  exact ⟨rfl, rfl⟩

/-- A world faces as many failures as a world that awaits all it faces. -/
theorem World.Faces.fewer {world : World} {hazards : Kind -> List Fault}
    (faces : world.Faces hazards) (kind : Kind) :
    (world.collections.get kind).faults ⊆
      ((world.awaiting hazards).collections.get kind).faults := by
  rw [World.get_awaiting]
  exact faces kind

/-- What is awaited does not depend on the clock. -/
theorem World.awaiting_clock (world : World) (faults : Kind -> List Fault) (clock : Nat)
    (steady : Bool) : { world with clock := clock, steady := steady }.awaiting faults =
      { world.awaiting faults with clock := clock, steady := steady } := rfl

/-- What is awaited does not depend on the registry of metrics. -/
theorem World.awaiting_registry (world : World) (faults : Kind -> List Fault)
    (registry : Metrics.Registry) : { world with registry := registry }.awaiting faults =
      { world.awaiting faults with registry := registry } := rfl

/-! ## Storms -/

/-- An order of failures for the next calls of a kind. -/
structure Order where
  kind : Kind
  times : Nat
  fault : Fault

/-- Orders that are given while a program runs: those right before its first command, those right
before its second one, and so on. -/
abbrev Storm := List (List Order)

/-- The failures that a storm brings. -/
def Storm.faults (storm : Storm) : List Fault := storm.flatten.map Order.fault

/-- A call that was answered with the failure may be answered otherwise another time. -/
def Fault.Passes (fault : Fault) : Prop :=
  (fault.code = 409 ∧ fault.reason ≠ "AlreadyExists") ∨ fault.code = 429 ∨ 500 ≤ fault.code

/-- A storm brings failures that may pass, and no others. -/
def Storm.Passes (storm : Storm) : Prop := ∀ fault ∈ storm.faults, fault.Passes

/-- A storm that brings nothing may pass. -/
theorem Storm.passes_nil : Storm.Passes [] := fun _ mem => absurd mem List.not_mem_nil

/-- After some commands the API server is overloaded for the next calls of an operation. -/
def overload (commands times : Nat) (kind : Kind) (operation : Operation) : Storm :=
  List.replicate commands [] ++ [[⟨kind, times, ⟨operation, 503, "ServiceUnavailable"⟩⟩]]

/-- Overload may pass. -/
theorem passes_overload {commands times : Nat} {kind : Kind} {operation : Operation} :
    (overload commands times kind operation).Passes := by
  have one : (overload commands times kind operation).faults =
      [⟨operation, 503, "ServiceUnavailable"⟩] := by
    simp [overload, Storm.faults]
  intro fault mem
  rw [one, List.mem_singleton] at mem
  rw [mem]
  exact .inr (.inr (show 500 ≤ 503 by decide))

/-- A world in a storm. -/
structure Stormy where
  world : World
  /-- The orders before each of the commands to come. -/
  storm : Storm

namespace World

/-- The world after some orders. -/
def ordering (orders : List Order) (world : World) : World :=
  orders.foldl (fun world order => world.failNext order.kind order.times order.fault) world

/-- What may fail while a program runs in a storm. -/
def hazards (world : World) (storm : Storm) (kind : Kind) : List Fault :=
  (world.collections.get kind).faults ++ storm.faults

/-- The world as if all that may fail in a storm was awaited from the start. -/
def amid (world : World) (storm : Storm) : World := world.awaiting (world.hazards storm)

end World

/-- The orders before a command are given, and then the command is answered. -/
def Stormy.answer (command : Command) (stormy : Stormy) : command.Reply × Stormy :=
  let (reply, world) := World.answer command (stormy.world.ordering (stormy.storm.headD []))
  (reply, ⟨world, stormy.storm.tail⟩)

/-- Runs a program in a storm. -/
def World.runAmid (storm : Storm) (world : World) (program : Program α) : α × World :=
  let (value, stormy) := program.run Stormy.answer ⟨world, storm⟩
  (value, stormy.world)

namespace World

variable {world : World} {hazards : Kind -> List Fault}

/-- Orders do not show where all that may fail is awaited anyway. -/
theorem awaiting_ordering (world : World) (orders : List Order) :
    (world.ordering orders).awaiting hazards = world.awaiting hazards := by
  induction orders generalizing world with
  | nil => rfl
  | cons order orders ih =>
    obtain ⟨kind, times, fault⟩ := order
    refine (ih (world.failNext kind times fault)).trans ?_
    cases kind <;> rfl

/-- Orders of what may fail bring nothing else. -/
theorem Faces.ordering (faces : world.Faces hazards) {orders : List Order}
    (within : ∀ order ∈ orders, ∀ kind, order.fault ∈ hazards kind) :
    (world.ordering orders).Faces hazards := by
  induction orders generalizing world with
  | nil => exact faces
  | cons order orders ih =>
    refine ih (fun kind => ?_) fun other mem => within other (List.mem_cons_of_mem _ mem)
    show ((world.collections.set order.kind _).get kind).faults ⊆ hazards kind
    by_cases same : kind = order.kind
    · subst same
      rw [Collections.get_set]
      refine List.append_subset.2 ⟨faces order.kind, fun fault mem => ?_⟩
      rw [List.eq_of_mem_replicate mem]
      exact within order List.mem_cons_self order.kind
    · rw [Collections.get_set_of_ne _ _ same]
      exact faces kind

/-- At the start nothing is awaited but what may fail. -/
theorem faces_hazards (world : World) (storm : Storm) : world.Faces (world.hazards storm) :=
  fun _ => List.subset_append_left _ _

/-- Without a storm nothing more may fail than what is awaited. -/
theorem amid_nil (world : World) : world.amid [] = world := by
  have own : world.hazards [] = fun kind => (world.collections.get kind).faults := by
    funext kind
    exact List.append_nil _
  rw [amid, own]
  rfl

/-- A world that faces no failures awaits none. -/
theorem awaiting_none (faces : world.Faces fun _ => []) : world.awaiting (fun _ => []) = world := by
  have own : (fun kind => (world.collections.get kind).faults) = fun _ => [] :=
    funext fun kind => List.subset_nil.1 (faces kind)
  rw [← own]
  rfl

/-- A run without a storm is a run. -/
theorem runAmid_nil (world : World) (program : Program α) :
    world.runAmid [] program = world.run program := by
  induction program generalizing world with
  | done value => rfl
  | step command next ih => exact ih _ _

end World

end GuestFleet.Store
