import GuestFleet.Proofs.Cluster.Course

/-!
# Failures that pass leave no trace

Two passes over a cluster from the same objects, one of which meets failures that may pass,
ordered before it or while it runs. If that one ends well, so does the other, with the same
outcome, and both leave the same objects: each makes the change that was planned at the start.
-/

namespace GuestFleet

open Kube (Kind Object)
open Store (Collection Collections Fault Storm View World)

/-! ## Schedules of failures -/

namespace Store

/-- The schedule of failures is no part of what is stored. -/
theorem Collections.alike_awaiting (all : Collections) (faults others : Kind -> List Fault)
    (kind : Kind) : ((all.awaiting faults).get kind).Alike ((all.awaiting others).get kind) := by
  rw [get_awaiting, get_awaiting]
  exact ⟨rfl, rfl⟩

/-- Sound collections are steady with failures to come that may pass. -/
theorem Collections.Sound.awaiting {all : Collections} (sound : all.Sound)
    {faults : Kind -> List Fault} (passing : ∀ kind, ∀ fault ∈ faults kind, fault.Passes)
    (kind : Kind) : ((all.awaiting faults).get kind).Steady := by
  rw [get_awaiting]
  exact ⟨(sound kind).congr rfl rfl, passing kind⟩

end Store

/-! ## Plans for like collections -/

namespace Blueprint

variable (b : Blueprint) (etcd : EtcdStorage) (event : Event) {all other : Collections}
  (alike : ∀ kind, (all.get kind).Alike (other.get kind))

include alike

/-- Whether a pass stops is a matter of what is stored. -/
theorem stops_alike : b.Stops event other <-> b.Stops event all := by
  unfold Stops
  rw [b.found_alike (alike .namespace)]

variable (valid : b.cluster.isValid = true)

include valid

/-- Which config maps a pass notes is a matter of what is stored. -/
theorem noted_alike : b.noted etcd event other = b.noted etcd event all := by
  unfold noted
  rw [(b.fit_care etcd valid .configMap).plan_alike (alike .configMap)]

/-- What a pass is to change is a matter of what is stored. -/
theorem change_alike (kind : Kind) :
    b.change etcd event other kind = b.change etcd event all kind := by
  unfold change
  rw [b.noted_alike etcd event alike valid, (b.fit_care etcd valid kind).plan_alike (alike kind)]

end Blueprint

/-- Whether a change can be made is a matter of what is stored. -/
theorem Care.Able.alike {kind : Kind} {care : Care kind} {c d : Collection kind}
    {change : ChangeSet kind} (able : care.Able c change) (alike : c.Alike d) :
    care.Able d change := by
  constructor
  · intro object mem
    rw [alike.stored]
    exact able.creates object mem
  · intro object mem
    rw [alike.stored]
    exact able.renews object mem

/-! ## Two passes -/

namespace Pass

section

variable (config : Config) (etcd : EtcdStorage) (cluster : Cluster)
  (valid : cluster.isValid = true) {event : Event} {before other after : Store.Ledger}

include valid

/-- A pass that was completed shows that each of its changes could be made. -/
theorem able_of_course (sound : before.collections.Sound)
    (course : Course (blueprint config cluster) etcd event before (kinds config etcd cluster) after)
    (kind : Kind) :
    ((blueprint config cluster).care etcd kind).Able (before.collections.get kind)
      ((blueprint config cluster).change etcd event before.collections kind) := by
  let b : Blueprint := blueprint config cluster
  by_cases among : kind ∈ kinds config etcd cluster
  · exact (b.fit_care etcd valid kind).able_of_made (sound kind) (course.made kind among)
  · have nothing : b.desired etcd kind = [] := desired_nil config etcd cluster among b
    have creates := b.change_create etcd event before.collections kind
    have updates := b.change_update etcd event before.collections valid kind
    rw [nothing, List.sublist_nil] at creates updates
    constructor
    · rw [creates]
      exact fun _ mem => absurd mem List.not_mem_nil
    · rw [updates]
      exact fun _ mem => absurd mem List.not_mem_nil

/-- Two passes that were completed from like collections leave the same objects. -/
theorem resembles_of_courses {final : Store.Ledger}
    (sound : before.collections.Sound)
    (alike : ∀ kind, (before.collections.get kind).Alike (other.collections.get kind))
    (course : Course (blueprint config cluster) etcd event before (kinds config etcd cluster) after)
    (courseOther : Course (blueprint config cluster) etcd event other (kinds config etcd cluster)
      final) (kind : Kind) :
    (after.collections.get kind).Resembles (final.collections.get kind) := by
  let b : Blueprint := blueprint config cluster
  by_cases among : kind ∈ kinds config etcd cluster
  · have made := courseOther.made kind among
    rw [Blueprint.change, b.noted_alike etcd event alike valid] at made
    exact (b.fit_care etcd valid kind).resembles (sound kind) (alike kind)
      (course.made kind among) made
  · have first := (course.untouched kind among).resembles
    have second := (courseOther.untouched kind among).resembles
    exact fun slot => (second slot).trans (((alike kind).resembles slot).trans (first slot).symm)

variable {calm stormy : World} {storm : Storm}
  (steadyCalm : ∀ kind, (calm.collections.get kind).Steady)
  (steadyStormy : ∀ kind, ((stormy.amid storm).collections.get kind).Steady)
  (alike : ∀ kind, (calm.collections.get kind).Alike ((stormy.amid storm).collections.get kind))
  (unfailing : ∀ kind, (calm.collections.get kind).faults = []) {outcome : Outcome}
  (ended : (stormy.runAmid storm (run event (clusterHandlers config etcd cluster)).run).1 =
    .ok outcome)

include steadyCalm steadyStormy alike unfailing ended

omit valid in
/-- A pass that is cancelled is cancelled without failures too, and neither writes. -/
theorem same_of_stops (stops : (blueprint config cluster).Stops event calm.collections) :
    (calm.run (run event (clusterHandlers config etcd cluster)).run).1 = .ok outcome ∧
      ∀ kind, ((calm.run (run event (clusterHandlers config etcd cluster)).run).2.collections.get
        kind).Resembles ((stormy.runAmid storm
          (run event (clusterHandlers config etcd cluster)).run).2.collections.get kind) := by
  have stopsStormy := ((blueprint config cluster).stops_alike event alike).2 stops
  have endsStormy := run_cancelled config etcd cluster (stormy.amid storm).ledger steadyStormy
    stopsStormy
  have endsCalm := run_cancelled config etcd cluster calm.ledger steadyCalm stops
  obtain ⟨rfl, idle⟩ := View.ledger.amid_ok_of_ends endsStormy ended
  have idleStormy := Idle.faced idle (stormy.faces_runAmid storm _)
  have atEnd := View.ledger.run_of_ends unfailing endsCalm
  obtain ⟨_, isOk, rfl, idleCalm⟩ := Either.exists_ok atEnd fun _ ⟨_, ⟨kind, awaits⟩, _⟩ =>
    awaits (unfailing kind)
  refine ⟨isOk, fun kind slot => ?_⟩
  have stormyStored := (idleStormy kind).alike.stored slot
  have calmStored := (idleCalm kind).alike.stored slot
  exact congrArg (Option.map Object.unversioned)
    (stormyStored.trans (((alike kind).stored slot).trans calmStored.symm))

/-- A pass that is completed is completed without failures too, with the same changes made. -/
theorem same_of_goes (goes : ¬ (blueprint config cluster).Stops event calm.collections) :
    (calm.run (run event (clusterHandlers config etcd cluster)).run).1 = .ok outcome ∧
      ∀ kind, ((calm.run (run event (clusterHandlers config etcd cluster)).run).2.collections.get
        kind).Resembles ((stormy.runAmid storm
          (run event (clusterHandlers config etcd cluster)).run).2.collections.get kind) := by
  let b : Blueprint := blueprint config cluster
  have goesStormy : ¬ b.Stops event (stormy.amid storm).collections :=
    fun stopping => goes ((b.stops_alike event alike).1 stopping)
  have endsStormy := run_makes config etcd cluster event valid (stormy.amid storm).ledger
    steadyStormy goesStormy
  have endsCalm := run_makes config etcd cluster event valid calm.ledger steadyCalm goes
  obtain ⟨rfl, course⟩ := View.ledger.amid_ok_of_ends endsStormy ended
  have courseStormy := Course.faced (stormy.faces_runAmid storm _) course
  have able : ∀ kind, (b.care etcd kind).Able (calm.collections.get kind)
      (b.change etcd event calm.collections kind) := by
    intro kind
    have ableStormy := able_of_course config etcd cluster valid
      (fun kind => (steadyStormy kind).sound) courseStormy kind
    rw [← b.change_alike etcd event alike valid kind]
    exact ableStormy.alike ⟨(alike kind).1.symm, (alike kind).2.symm⟩
  have atEnd := View.ledger.run_of_ends unfailing endsCalm
  obtain ⟨_, isOk, rfl, courseCalm⟩ := Either.exists_ok atEnd fun _ broken =>
    broken.unable unfailing able
  exact ⟨isOk, resembles_of_courses config etcd cluster valid
    (fun kind => (steadyCalm kind).sound) alike courseCalm courseStormy⟩

end

/-- Failures that may pass do not show in the result of a pass that ends well, whether they were
ordered before it or meanwhile: the pass ends in the same way when they do not occur, and leaves
the same objects up to their resource versions. The objects before may be any. -/
theorem overCluster_resilient {world : World} (sound : world.collections.Sound) (config : Config)
    {cluster : Cluster} (valid : cluster.isValid = true) {etcd : EtcdStorage}
    (registered : Resource.bundles.resolve cluster.version = .ok etcd) (event : Event)
    {faults : Kind -> List Fault} (passing : ∀ kind, ∀ fault ∈ faults kind, fault.Passes)
    {storm : Storm} (passes : storm.Passes) (outcome : Outcome) :
    let calm := (world.awaiting fun _ => []).run (overCluster config cluster event).run
    let stormy := (world.awaiting faults).runAmid storm (overCluster config cluster event).run
    stormy.1 = .ok outcome ->
      calm.1 = .ok outcome ∧
        ∀ kind, (calm.2.collections.get kind).Resembles (stormy.2.collections.get kind) := by
  intro calm stormy ended
  have resolved := overCluster_eq config registered event
  have steadyCalm : ∀ kind, ((world.awaiting fun _ => []).collections.get kind).Steady :=
    sound.awaiting fun _ _ mem => absurd mem List.not_mem_nil
  have unfailing : ∀ kind, ((world.awaiting fun _ => []).collections.get kind).faults = [] :=
    fun kind => congrArg Collection.faults (world.get_awaiting (fun _ => []) kind)
  have steadyStormy : ∀ kind, (((world.awaiting faults).amid storm).collections.get kind).Steady :=
    fun kind => (sound.awaiting passing kind).amid passes
  have alike : ∀ kind, ((world.awaiting fun _ => []).collections.get kind).Alike
      (((world.awaiting faults).amid storm).collections.get kind) :=
    world.collections.alike_awaiting (fun _ => []) _
  simp only [calm, stormy, resolved] at ended ⊢
  by_cases stops : (blueprint config cluster).Stops event (world.awaiting fun _ => []).collections
  · exact same_of_stops config etcd cluster steadyCalm steadyStormy alike unfailing ended stops
  · exact same_of_goes config etcd cluster valid steadyCalm steadyStormy alike unfailing ended
      stops

/-- The server is overloaded when a config map is created, and then refuses to create a
deployment for a conflict. -/
def hiccups : Kind -> List Fault
  | .configMap => [⟨.create, 503, "ServiceUnavailable"⟩]
  | .deployment => [⟨.create, 409, "Conflict"⟩]
  | _ => []

/-- A small cluster is brought about with and without failures, some of which come when half of the
cluster is there. -/
theorem overCluster_resilient_small :
    let calm := (({} : World).awaiting fun _ => []).run
      (overCluster {} (smallCluster "al9qy") .apply).run
    let stormy := (({} : World).awaiting hiccups).runAmid (Store.overload 30 2 .service .create)
      (overCluster {} (smallCluster "al9qy") .apply).run
    stormy.1 = .ok .completed ∧ calm.1 = .ok .completed ∧
      ∀ kind, (calm.2.collections.get kind).Resembles (stormy.2.collections.get kind) := by
  have sound : ({} : World).collections.Sound := by
    intro kind
    cases kind <;> exact Collection.sound_empty
  have passing : ∀ kind, ∀ fault ∈ hiccups kind, fault.Passes := by
    intro kind fault mem
    cases kind with
    | configMap =>
      rw [List.mem_singleton.1 mem]
      exact .inr (.inr (by decide))
    | deployment =>
      rw [List.mem_singleton.1 mem]
      exact .inl ⟨rfl, by decide⟩
    | _ => cases mem
  have valid : (smallCluster "al9qy").isValid = true := by decide
  have registered : Resource.bundles.resolve (smallCluster "al9qy").version =
      .ok .persistentVolume := rfl
  have completed : ((({} : World).awaiting hiccups).runAmid (Store.overload 30 2 .service .create)
      (overCluster {} (smallCluster "al9qy") .apply).run).1 = .ok .completed := by
    decide +kernel
  have passes : (Store.overload 30 2 .service .create).Passes := Store.passes_overload
  exact ⟨completed,
    overCluster_resilient sound {} valid registered .apply passing passes .completed completed⟩

end Pass

end GuestFleet
