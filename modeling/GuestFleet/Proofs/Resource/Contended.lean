import GuestFleet.Proofs.Change.Stamped
import GuestFleet.Proofs.Store.Shared

/-!
# Merging what others write too

An object is read, merged and replaced in two calls, and between them others may do as they
please. The version of the object that was read travels through the merge, so that the
replacement is refused when anything was written to the slot in between: no write of others is
lost.
-/

namespace GuestFleet

open Kube (Kind Object)
open Store (Act Collections Interlude Moment Shared Slot World slotOf)

variable {kind : Kind}

namespace Store

/-! ## Careful histories -/

/-- In this step the program has read an object from a slot. -/
structure Moment.Reads (slot : Slot) (read : Object kind) (moment : Moment) : Prop where
  own : moment.own = true
  act : ∃ space name, Slot.make space name = slot ∧ moment.act = .call (.get kind space name)
  reply : ((moment.before.get kind).get slot).1 = .ok read

/-- A replacement that is made from an object that was read before: it succeeds on nothing but
that object. If the slot was written to in between it fails, and nothing is changed; if not, it
succeeds unless a failure was ordered. -/
structure Replaces (object read : Object kind) (between : List Moment) (all : Collections) :
    Prop where
  exactly : ((all.get kind).replace object).1.isOk = true ->
    (all.get kind).stored (slotOf object) = some read
  refused : (∃ moment ∈ between, moment.act.Writes moment.before kind (slotOf object)) ->
    ((all.get kind).replace object).1.isOk = false ∧
      ∀ other, (all.get other).Alike ((Act.on (.call (.replace kind object)) all).get other)
  unhindered : (¬ ∃ moment ∈ between, moment.act.Writes moment.before kind (slotOf object)) ->
    ¬ (all.get kind).Awaits .replace -> ((all.get kind).replace object).1.isOk = true

/-- An object is replaced by one with its version after an interlude of others. -/
theorem Interlude.replaces {before after : Shared} {between : List Moment}
    (interlude : Interlude before after between) (sound : before.collections.Sound)
    {object read : Object kind}
    (stored : (before.collections.get kind).stored (slotOf object) = some read)
    (version : object.metadata.resourceVersion = read.metadata.resourceVersion) :
    Replaces object read between after.collections := by
  let c := after.collections.get kind
  have unwritten (replaced : (c.replace object).1.isOk = true) :
      (¬ ∃ moment ∈ between, moment.act.Writes moment.before kind (slotOf object)) ∧
        c.stored (slotOf object) = some read := by
    obtain ⟨held, now, may⟩ := c.stored_of_replaced object replaced
    obtain ⟨text, dated⟩ := (sound kind).version_of_stored stored
    have named : object.metadata.resourceVersion = some text := version.trans dated
    have same : held.metadata.resourceVersion = read.metadata.resourceVersion :=
      (Collection.version_of_mayReplace may named).trans dated.symm
    -- A version is given once, so what still carries the one that was read was not written since.
    obtain ⟨quiet, rfl⟩ := (interlude.traced kind).unwritten (sound kind) stored now same
    exact ⟨quiet, now⟩
  refine ⟨fun replaced => (unwritten replaced).2, fun written => ?_, fun quiet free => ?_⟩
  · have failed : (c.replace object).1.isOk = false := by
      rw [← Bool.not_eq_true]
      exact fun replaced => (unwritten replaced).1 written
    exact ⟨failed, Act.alike_of_refused failed⟩
  · have now : c.stored (slotOf object) = some read :=
      ((interlude.traced kind).kept _ quiet).trans stored
    exact c.replaced_of_stored object free now (Collection.mayReplace_own version)

/-- Whenever the program has replaced an object of a kind, it had read the slot, with nothing but
steps of others in between, and the replacement was made from what it had read. This is said of
objects with a snapshot without a version alone, since a version in the snapshot is merged away. -/
def Careful (kind : Kind) (history : List Moment) : Prop :=
  ∀ later moment earlier (object : Object kind), history = later ++ moment :: earlier ->
    moment.own = true -> moment.act = .call (.replace kind object) ->
    ∃ read between reading before, earlier = between ++ reading :: before ∧
      (∀ other ∈ between, other.own = false) ∧ reading.Reads (slotOf object) read ∧
      (read.SnapshotUnversioned -> Replaces object read between moment.before)

/-- A history without steps is careful. -/
theorem careful_nil : Careful kind [] := by
  intro later moment earlier object split
  simp at split

/-- One more step is careful if it is when it is a replacement of the program. -/
theorem Careful.cons {history : List Moment} {moment : Moment} (careful : Careful kind history)
    (next : ∀ object : Object kind, moment.own = true ->
      moment.act = .call (.replace kind object) ->
      ∃ read between reading before, history = between ++ reading :: before ∧
        (∀ other ∈ between, other.own = false) ∧ reading.Reads (slotOf object) read ∧
        (read.SnapshotUnversioned -> Replaces object read between moment.before)) :
    Careful kind (moment :: history) := by
  intro later other earlier object split own act
  cases later with
  | nil =>
    obtain ⟨rfl, rfl⟩ := List.cons.inj split
    exact next object own act
  | cons head later => exact careful later other earlier object (List.cons.inj split).2 own act

/-- The steps of others are no matter of the program's care. -/
theorem Careful.append {history between : List Moment} (careful : Careful kind history)
    (others : ∀ moment ∈ between, moment.own = false) : Careful kind (between ++ history) := by
  induction between with
  | nil => exact careful
  | cons moment between ih =>
    refine (ih fun other mem => others other (List.mem_cons_of_mem _ mem)).cons ?_
    intro object own
    cases (others moment List.mem_cons_self).symm.trans own

namespace Shared

/-- What every step keeps: the collections are sound, and the history is careful. -/
structure Watched (kind : Kind) (shared : Shared) : Prop where
  sound : shared.collections.Sound
  careful : Careful kind shared.history

/-- The last step of the program was to read an object, which is still there. -/
structure JustRead (slot : Slot) (read : Object kind) (shared : Shared) : Prop where
  reading : ∃ reading before, shared.history = reading :: before ∧ reading.Reads slot read
  stored : (shared.collections.get kind).stored slot = some read

/-- Steps of others leave a watched collection watched. -/
theorem Watched.interlude {shared after : Shared} {between : List Moment}
    (watched : shared.Watched kind) (interlude : Interlude shared after between) :
    after.Watched kind := by
  refine ⟨interlude.sound watched.sound, ?_⟩
  rw [interlude.history]
  exact watched.careful.append interlude.others

/-- A step of the program other than a replacement. -/
theorem Watched.takes {shared : Shared} (watched : shared.Watched kind) {command : Command}
    (other : ∀ object : Object kind, command ≠ .replace kind object) :
    (shared.takes true (.call command)).Watched kind := by
  refine ⟨Act.sound_on (.call command) watched.sound, watched.careful.cons ?_⟩
  intro object _ act
  exact absurd (Act.call.inj act) (other object)

/-- Commands other than replacements keep watch. -/
theorem guarded_watched (kind : Kind) :
    Guarded around (fun command => ∀ object : Object kind, command ≠ .replace kind object)
      (Watched kind) := by
  intro shared command reply after watched other answered
  obtain ⟨between, interlude⟩ := shared.interlude
  have interrupted := watched.interlude interlude
  have fits : command.Fits
      (World.answer command { collections := shared.interrupted.collections }).1 :=
    answer_fits command interrupted.sound
  have taken := interrupted.takes other
  cases command with
  | patchCluster space name patch =>
    obtain ⟨rfl, rfl⟩ := Prod.mk.inj answered
    exact ⟨watched, trivial⟩
  | now =>
    obtain ⟨rfl, rfl⟩ := Prod.mk.inj answered
    exact ⟨watched, trivial⟩
  | pause span =>
    obtain ⟨rfl, rfl⟩ := Prod.mk.inj answered
    exact ⟨watched, trivial⟩
  | record event =>
    obtain ⟨rfl, rfl⟩ := Prod.mk.inj answered
    exact ⟨watched, trivial⟩
  | _ =>
    obtain ⟨rfl, rfl⟩ := Prod.mk.inj answered
    exact ⟨taken, fits⟩

end Shared

end Store

/-! ## Requests among others -/

namespace Request

open Store (Careful)

section

variable {shared : Shared} (watched : shared.Watched kind)

include watched

/-- An object that is read was there in that moment. -/
theorem ends_get_among (space : Option String) (name : String) :
    (get kind space name).Ends Shared.around shared
      (fun read after => after.Watched kind ∧ after.JustRead (.make space name) read)
      fun _ after => after.Watched kind := by
  intro reply after answered
  have kept := (Shared.guarded_watched kind shared (.get kind space name) reply after watched
    (fun _ => nofun) answered).1
  obtain ⟨rfl, rfl⟩ := Prod.mk.inj answered
  let c := shared.interrupted.collections.get kind
  have now : (shared.interrupted.takes true (.call (.get kind space name))).collections.get kind =
      (c.get (.make space name)).2 := Collections.get_set _ kind _
  show Either _ _ (c.get (.make space name)).1 _
  cases found : (c.get (.make space name)).1 with
  | error failure => exact kept
  | ok read =>
    refine ⟨kept, ⟨_, _, rfl, rfl, ⟨space, name, rfl, rfl⟩, found⟩, ?_⟩
    rw [now, (c.get_alike _).stored]
    exact c.stored_of_get _ found

/-- What is read at last was read in this step, whatever others did before it. -/
theorem ends_getOptional_among (space : Option String) (name : String) :
    (getOptional kind space name).Ends Shared.around shared
      (fun found after => after.Watched kind ∧
        ∀ read, found = some read -> after.JustRead (.make space name) read)
      fun _ after => after.Watched kind := by
  refine ends_bind.2 (ends_attempt.2 (Ends.mono (ends_get_among watched space name) ?_ ?_))
  · rintro read after ⟨kept, just⟩
    refine ends_pure.2 ⟨kept, fun other same => ?_⟩
    rwa [← Option.some.inj same]
  · intro failure after kept
    show Ends _ (if failure.isNotFound then pure none else throw failure) _ _ _
    split_ifs
    · exact ends_pure.2 ⟨kept, fun read missing => by cases missing⟩
    · exact ends_throw.2 kept

/-- An object is replaced that was made from what was just read, with its version. -/
theorem ends_replace_among {object read : Object kind}
    (just : shared.JustRead (slotOf object) read)
    (version : read.SnapshotUnversioned ->
      object.metadata.resourceVersion = read.metadata.resourceVersion) :
    (replace object).Ends Shared.around shared (fun _ after => after.Watched kind)
      fun _ after => after.Watched kind := by
  intro reply after answered
  obtain ⟨between, interlude⟩ := shared.interlude
  have interrupted := watched.interlude interlude
  obtain ⟨reading, before, history, reads⟩ := just.reading
  let all := shared.interrupted.collections
  have careful : Careful kind (⟨true, .call (.replace kind object), all⟩ ::
      shared.interrupted.history) := by
    refine interrupted.careful.cons fun other _ act => ?_
    obtain ⟨-, same⟩ := Command.replace.inj (Act.call.inj act)
    obtain rfl := eq_of_heq same
    refine ⟨read, between, reading, before, ?_, interlude.others, reads, fun unversioned => ?_⟩
    · rw [interlude.history, history]
    · exact interlude.replaces watched.sound just.stored (version unversioned)
  have kept : (shared.interrupted.takes true (.call (.replace kind object))).Watched kind :=
    ⟨Act.sound_on _ interrupted.sound, careful⟩
  obtain ⟨rfl, rfl⟩ := Prod.mk.inj answered
  show Either _ _ _ _
  cases (World.answer (.replace kind object) { collections := all }).1 with
  | error failure => exact kept
  | ok written => exact kept

end

/-- An object is created, or merged into what was just read. -/
theorem keeps_mergeOne_among {desired : Object kind}
    (plain : desired.metadata.resourceVersion = none) :
    (mergeOne desired).Keeps Shared.around (Shared.Watched kind) fun _ => True := by
  intro shared watched
  have reads := ends_getOptional_among watched desired.metadata.namespaceName desired.name
  refine ends_bind.2 (Ends.mono reads ?_ fun _ _ kept => kept)
  rintro found after ⟨kept, just⟩
  cases found with
  | none => exact keeps_createOne (Shared.guarded_watched kind) (fun _ => nofun) after kept
  | some current =>
    have just : after.JustRead (slotOf desired) current := just current rfl
    have inPlace := (kept.sound kind).slotOf_stored just.stored
    show Ends _ (if _ then _ else _) _ _ _
    split_ifs
    · cases merges : current.mergeDesired desired with
      | error failure => exact ends_throw.2 kept
      | ok merged =>
        have slot := Object.slotOf_mergeDesired merges inPlace
        have version (unversioned : current.SnapshotUnversioned) :=
          Object.mergeDesired_resourceVersion merges unversioned plain
        rw [← slot] at just
        refine ends_bind.2 (Ends.mono (ends_replace_among kept just version) ?_ ?_)
        · intro written final kept
          exact ends_pure.2 ⟨kept, trivial⟩
        · exact fun failure final kept => kept
    · exact ends_pure.2 ⟨kept, trivial⟩

/-- Merging one object after the other is careful throughout. -/
theorem keeps_mergeAll_among {objects : List (Object kind)}
    (plain : ∀ object ∈ objects, object.metadata.resourceVersion = none) :
    (mergeAll objects).Keeps Shared.around (Shared.Watched kind) fun _ => True := by
  induction objects with
  | nil => exact keeps_pure trivial
  | cons object objects ih =>
    refine (keeps_mergeOne_among (plain object List.mem_cons_self)).bind fun _ _ => ?_
    exact ih fun other mem => plain other (List.mem_cons_of_mem _ mem)

/-- Whatever others do between the calls, everything that is replaced is replaced as it was read:
where somebody wrote in between, the replacement fails and nothing is changed. -/
theorem mergeAll_careful {desired : List (Object kind)}
    (plain : ∀ object ∈ desired, object.metadata.resourceVersion = none) {all : Collections}
    (sound : all.Sound) (schedule : List (List Act)) :
    Careful kind (Shared.run ⟨all, schedule, []⟩ (mergeAll desired).run).2.history := by
  have watched : Shared.Watched kind ⟨all, schedule, []⟩ := ⟨sound, Store.careful_nil⟩
  have ends := Shared.run_of_ends (keeps_mergeAll_among plain _ watched)
  revert ends
  cases (Shared.run ⟨all, schedule, []⟩ (mergeAll desired).run).1 with
  | ok value => exact fun ends => ends.1.careful
  | error failure => exact fun ends => ends.careful

/-- A service as a client of the namespace al9qy may draw it up. -/
def contestedService (selector : Kube.StringMap) : Object .service :=
  { metadata := { name := some "master", namespaceName := some "al9qy" }
    body := { spec := some { selector := some selector } } }

/-- Somebody writes a service right after it was read: the service is not replaced. -/
theorem mergeAll_careful_contested :
    let shared := Shared.run
      ⟨{}, [[.insert .service (contestedService [])],
        [.insert .service (contestedService [("app", "etcd")])]], []⟩
      (mergeAll [contestedService [("app", "master")]]).run
    shared.1 = .error .conflict ∧ Careful .service shared.2.history := by
  have sound : ({} : Collections).Sound := by
    intro kind
    cases kind <;> exact Store.Collection.sound_empty
  exact ⟨by rfl, mergeAll_careful (by decide) sound _⟩

end Request

end GuestFleet
