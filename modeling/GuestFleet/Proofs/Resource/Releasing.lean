import GuestFleet.Proofs.Resource.Contended
import GuestFleet.Proofs.Resource.Pod

/-!
# Releasing what others write too

A pod is read, released and deleted in three calls. Others may come between any two of them, and
a failure that may pass makes a release or a deletion be tried again with the copy that was read
at first. The version of the copy sees to it that no write of others is lost.
-/

namespace GuestFleet.Resource

open Store (Act Collection Collections Interlude Moment Shared Slot World slotOf)
open Store.Collection (Traced)

/-! ## Cautious histories -/

/-- In this step the program has looked for a pod in a slot and got none. -/
structure Misses (slot : Slot) (moment : Moment) : Prop where
  act : ∃ space name, Slot.make space name = slot ∧ moment.act = .call (.get .pod space name)
  nothing : ∀ pod, ((moment.before.get .pod).get slot).1 ≠ .ok pod

/-- In this step the program was to release a copy of a pod. If it succeeded the stored pod was the
copy up to then, and after that it is the copy with the other finalizers alone, in their order, and
with another version. -/
structure Releases (copy : Pod) (moment : Moment) : Prop where
  act : moment.act = .call (.replace .pod (released copy))
  draining : hasDrainingFinalizer copy = true
  exactly : ((moment.before.get .pod).replace (released copy)).1.isOk = true ->
    (moment.before.get .pod).stored (slotOf copy) = some copy ∧
      ∃ version, some version ≠ copy.metadata.resourceVersion ∧
        ((moment.act.on moment.before).get .pod).stored (slotOf copy) = some
          { copy with
            metadata :=
              { copy.metadata with
                finalizers := copy.metadata.finalizers.map fun finalizers =>
                  finalizers.filter fun finalizer => finalizer != drainingFinalizer
                resourceVersion := some version } }

/-- The reply to a release lets the pod be deleted: it was written, or there is no such pod. -/
def LetsDelete : Except Failure Pod -> Prop
  | .ok _ => True
  | .error failure => failure.isNotFound = true

/-- A copy of a pod may be deleted after some steps: there was nothing to release, or the last step
of the program was to release it, and the reply lets it be deleted. -/
def MayDelete (copy : Pod) (earlier : List Moment) : Prop :=
  hasDrainingFinalizer copy = false ∨
    ∃ between releasing before, earlier = between ++ releasing :: before ∧
      (∀ other ∈ between, other.own = false) ∧ releasing.own = true ∧ Releases copy releasing ∧
      LetsDelete ((releasing.before.get .pod).replace (released copy)).1

/-- In this step the program has deleted the pod that it has a copy of, as it may. -/
structure Deletes (copy : Pod) (moment : Moment) (earlier : List Moment) : Prop where
  act : moment.act = .call (.delete .pod copy.metadata.namespaceName copy.name (some 0))
  may : MayDelete copy earlier

/-- Every step of the program releases the pod that it has a copy of, or deletes it as it may. -/
def Cautious (copy : Pod) : List Moment -> Prop
  | [] => True
  | moment :: earlier =>
    (moment.own = true -> Releases copy moment ∨ Deletes copy moment earlier) ∧
      Cautious copy earlier

/-- The program has looked for a pod until it got a copy, if it got any, and was cautious since. -/
def Drains (slot : Slot) (history : List Moment) : Prop :=
  (∀ moment ∈ history, moment.own = true -> Misses slot moment) ∨
    ∃ copy since reading before, history = since ++ reading :: before ∧
      (∀ moment ∈ before, moment.own = true -> Misses slot moment) ∧
      reading.Reads slot copy ∧ Cautious copy since

section

variable {copy : Pod} {slot : Slot} {earlier between : List Moment}

/-- What others do takes no permission away. -/
theorem MayDelete.append (may : MayDelete copy earlier)
    (others : ∀ moment ∈ between, moment.own = false) : MayDelete copy (between ++ earlier) := by
  rcases may with free | ⟨later, releasing, before, rfl, quiet, own, releases, lets⟩
  · exact .inl free
  · refine .inr ⟨between ++ later, releasing, before, ?_, ?_, own, releases, lets⟩
    · rw [List.append_assoc]
    · intro other mem
      rcases List.mem_append.1 mem with mem | mem
      · exact others other mem
      · exact quiet other mem

/-- The steps of others are no matter of the program's caution. -/
theorem Cautious.append (cautious : Cautious copy earlier)
    (others : ∀ moment ∈ between, moment.own = false) : Cautious copy (between ++ earlier) := by
  induction between with
  | nil => exact cautious
  | cons moment between ih =>
    refine ⟨fun own => ?_, ih fun other mem => others other (List.mem_cons_of_mem _ mem)⟩
    cases (others moment List.mem_cons_self).symm.trans own

/-! ## Before and after the copy -/

/-- The program has not got a copy of the pod yet. -/
structure Searching (slot : Slot) (shared : Shared) : Prop where
  sound : shared.collections.Sound
  missed : ∀ moment ∈ shared.history, moment.own = true -> Misses slot moment

/-- The program has a copy of the pod, and some steps were taken since it got it. -/
structure Holding (slot : Slot) (copy : Pod) (since : List Moment) (shared : Shared) : Prop where
  sound : shared.collections.Sound
  reading : ∃ reading before, shared.history = since ++ reading :: before ∧
    (∀ moment ∈ before, moment.own = true -> Misses slot moment) ∧ reading.Reads slot copy
  traced : ∃ start wrote, Collection.Sound start ∧ start.stored (slotOf copy) = some copy ∧
    Traced wrote start (shared.collections.get .pod)
  cautious : Cautious copy since

/-- The program has a copy of the pod. -/
def Holds (slot : Slot) (copy : Pod) (shared : Shared) : Prop :=
  ∃ since, Holding slot copy since shared

variable {shared after : Shared} {since : List Moment}

/-- The program is still searching after steps of others. -/
theorem Searching.interlude (searching : Searching slot shared)
    (interlude : Interlude shared after between) : Searching slot after := by
  refine ⟨interlude.sound searching.sound, ?_⟩
  rw [interlude.history]
  intro moment mem own
  rcases List.mem_append.1 mem with mem | mem
  · cases (interlude.others moment mem).symm.trans own
  · exact searching.missed moment mem own

/-- A program that is still searching has done nothing but look for the pod. -/
theorem Searching.drains (searching : Searching slot shared) : Drains slot shared.history :=
  .inl searching.missed

/-- The program still holds its copy after steps of others, which count as taken since. -/
theorem Holding.interlude (holding : Holding slot copy since shared)
    (interlude : Interlude shared after between) : Holding slot copy (between ++ since) after := by
  obtain ⟨reading, before, history, missed, reads⟩ := holding.reading
  obtain ⟨start, wrote, sound, stored, traced⟩ := holding.traced
  refine ⟨interlude.sound holding.sound, ⟨reading, before, ?_, missed, reads⟩,
    ⟨start, _, sound, stored, traced.trans (interlude.traced .pod)⟩,
    holding.cautious.append interlude.others⟩
  rw [interlude.history, history, List.append_assoc]

/-- A step of the program with its copy. -/
theorem Holding.takes (holding : Holding slot copy since shared) {act : Act}
    (step : Releases copy ⟨true, act, shared.collections⟩ ∨
      Deletes copy ⟨true, act, shared.collections⟩ since) :
    Holding slot copy (⟨true, act, shared.collections⟩ :: since) (shared.takes true act) := by
  obtain ⟨reading, before, history, missed, reads⟩ := holding.reading
  obtain ⟨start, wrote, sound, stored, traced⟩ := holding.traced
  refine ⟨Act.sound_on act holding.sound, ⟨reading, before, ?_, missed, reads⟩,
    ⟨start, _, sound, stored, traced.trans (act.traced shared.collections .pod)⟩,
    fun _ => step, holding.cautious⟩
  exact congrArg (_ :: ·) history

/-- A program with a copy was cautious since it got it. -/
theorem Holds.drains (holds : Holds slot copy shared) : Drains slot shared.history := by
  obtain ⟨since, holding⟩ := holds
  obtain ⟨reading, before, history, missed, reads⟩ := holding.reading
  exact .inr ⟨copy, since, reading, before, history, missed, reads, holding.cautious⟩

/-- Wherever the copy is released, it takes the place of the pod that was copied and of no
other. -/
theorem Holding.releases (holding : Holding slot copy since shared)
    (draining : hasDrainingFinalizer copy = true) :
    Releases copy ⟨true, .call (.replace .pod (released copy)), shared.collections⟩ := by
  refine ⟨rfl, draining, fun replaced => ?_⟩
  let c := shared.collections.get .pod
  have replaced : (c.replace (released copy)).1.isOk = true := replaced
  obtain ⟨start, wrote, sound, stored, traced⟩ := holding.traced
  obtain ⟨held, now, may⟩ := c.stored_of_replaced (released copy) replaced
  obtain ⟨text, dated⟩ := sound.version_of_stored stored
  have same : held.metadata.resourceVersion = copy.metadata.resourceVersion :=
    (Collection.version_of_mayReplace may dated).trans dated.symm
  -- A version is given once: what still carries the version of the copy is what was copied.
  obtain ⟨-, rfl⟩ := traced.unwritten sound stored now same
  refine ⟨now, Collection.versionText c.nextVersion, ?_, ?_⟩
  · exact ((holding.sound .pod).version_ne now).symm
  · show ((shared.collections.set .pod (c.replace (released held)).2).get .pod).stored _ = _
    rw [Collections.get_set]
    rcases c.replace_outcome (released held) with ⟨failed, -⟩ | ⟨-, alike⟩
    · cases failed.symm.trans replaced
    · rw [alike.stored]
      exact (Collection.stored_insert _ _ _).trans (if_pos rfl)

end

/-! ## The calls of a drain -/

section

variable {copy : Pod} {slot : Slot} {shared : Shared} {since : List Moment}

/-- Looking for the pod ends the search with a copy, or not at all. -/
theorem Searching.get {space : Option String} {name : String}
    (searching : Searching (.make space name) shared) :
    (Request.get .pod space name).Ends Shared.around shared
      (fun copy after => Holds (.make space name) copy after)
      fun _ after => Searching (.make space name) after := by
  intro reply after answered
  obtain ⟨between, interlude⟩ := shared.interlude
  have interrupted := searching.interlude interlude
  obtain ⟨rfl, rfl⟩ := Prod.mk.inj answered
  let all := shared.interrupted.collections
  have sound : (shared.interrupted.takes true (.call (.get .pod space name))).collections.Sound :=
    Act.sound_on (.call (.get .pod space name)) interrupted.sound
  show Either _ _ ((all.get .pod).get (.make space name)).1 _
  cases found : ((all.get .pod).get (.make space name)).1 with
  | error failure =>
    refine ⟨sound, fun moment mem own => ?_⟩
    rcases List.mem_cons.1 mem with rfl | mem
    · refine ⟨⟨space, name, rfl, rfl⟩, fun pod same => ?_⟩
      cases found.symm.trans same
    · exact interrupted.missed moment mem own
  | ok copy =>
    have stored := (all.get .pod).stored_of_get _ found
    have inPlace := (interrupted.sound .pod).slotOf_stored stored
    rw [← inPlace] at stored
    exact ⟨[], sound, ⟨_, _, rfl, interrupted.missed, rfl, ⟨space, name, rfl, rfl⟩, found⟩,
      ⟨_, _, interrupted.sound .pod, stored, Act.traced _ all .pod⟩, trivial⟩

/-- A search ends without a pod, or with a copy that was just read. -/
theorem Searching.getExisting {space : Option String} {name : String}
    (searching : Searching (.make space name) shared) :
    (Request.getExisting .pod space [name]).Ends Shared.around shared
      (fun current after => (current = [] ∧ Searching (.make space name) after) ∨
        ∃ copy, current = [copy] ∧ Holds (.make space name) copy after)
      fun _ after => Searching (.make space name) after := by
  refine Request.ends_bind.2 (Request.ends_bind.2
    (Request.ends_attempt.2 (Request.Ends.mono searching.get ?_ ?_)))
  · intro copy after holds
    exact Request.ends_pure.2 (.inr ⟨copy, rfl, holds⟩)
  · intro failure after searching
    show Request.Ends _ (if failure.isNotFound then pure none else throw failure) _ _ _
    split_ifs
    · exact Request.ends_pure.2 (.inl ⟨rfl, searching⟩)
    · exact Request.ends_throw.2 searching

/-- After a release the pod may be deleted if there was nothing to release, or if the reply
allows it. -/
theorem Holding.release (holding : Holding slot copy since shared) :
    (release copy).Ends Shared.around shared
      (fun free after => ∃ since, Holding slot copy since after ∧
        (free = true -> MayDelete copy since))
      fun _ after => Holds slot copy after := by
  unfold Resource.release
  by_cases draining : hasDrainingFinalizer copy = true
  · rw [if_pos draining]
    refine Request.ends_bind.2 (Request.ends_attempt.2 ?_)
    intro reply after answered
    obtain ⟨between, interlude⟩ := shared.interlude
    have interrupted := holding.interlude interlude
    have releases := interrupted.releases draining
    have taken := interrupted.takes (.inl releases)
    obtain ⟨rfl, rfl⟩ := Prod.mk.inj answered
    let all := shared.interrupted.collections
    let c := all.get .pod
    have may (lets : LetsDelete (c.replace (released copy)).1) :
        MayDelete copy (⟨true, .call (.replace .pod (released copy)), all⟩ :: (between ++ since)) :=
      .inr ⟨[], _, _, rfl, fun _ mem => absurd mem List.not_mem_nil, rfl, releases, lets⟩
    show Either _ _ (c.replace (released copy)).1 _
    cases answer : (c.replace (released copy)).1 with
    | ok written =>
      rw [answer] at may
      exact Request.ends_pure.2 ⟨_, taken, fun _ => may trivial⟩
    | error failure =>
      rw [answer] at may
      show Request.Ends _ (if failure.isConflict then pure false
        else if failure.isNotFound then pure true else throw failure) _ _ _
      split_ifs with conflict gone
      · exact Request.ends_pure.2 ⟨_, taken, nofun⟩
      · exact Request.ends_pure.2 ⟨_, taken, fun _ => may gone⟩
      · exact Request.ends_throw.2 ⟨_, taken⟩
  · rw [if_neg draining]
    have free : hasDrainingFinalizer copy = false := Bool.eq_false_of_not_eq_true draining
    exact Request.ends_pure.2 ⟨since, holding, fun _ => .inl free⟩

/-- A copy that may be deleted is deleted as it may be, and the program still holds it. -/
theorem Holding.delete (holding : Holding slot copy since shared) (may : MayDelete copy since) :
    (Request.deleteAll (some 0) [copy]).Ends Shared.around shared
      (fun _ after => Holds slot copy after) fun _ after => Holds slot copy after := by
  refine Request.ends_bind.2 (Request.ends_bind.2 (Request.ends_attempt.2 ?_))
  intro reply after answered
  obtain ⟨between, interlude⟩ := shared.interlude
  have deletes : Deletes copy
      ⟨true, .call (.delete .pod copy.metadata.namespaceName copy.name (some 0)),
        shared.interrupted.collections⟩ (between ++ since) := ⟨rfl, may.append interlude.others⟩
  have taken : Holds slot copy _ := ⟨_, (holding.interlude interlude).takes (.inr deletes)⟩
  obtain ⟨rfl, rfl⟩ := Prod.mk.inj answered
  show Either _ _ ((shared.interrupted.collections.get .pod).delete _ _).1 _
  cases ((shared.interrupted.collections.get .pod).delete
    (.make copy.metadata.namespaceName copy.name) (some 0)).1 with
  | ok value => exact Request.ends_pure.2 (Request.ends_pure.2 taken)
  | error failure =>
    show Request.Ends _ (if failure.isNotFound then pure () else throw failure) _ _ _
    split_ifs
    · exact Request.ends_pure.2 (Request.ends_pure.2 taken)
    · exact Request.ends_throw.2 taken

/-- One try of a drain, the first or a later one. -/
theorem Holds.drain (holds : Holds slot copy shared) :
    (drain [copy]).Ends Shared.around shared (fun _ after => Holds slot copy after)
      fun _ after => Holds slot copy after := by
  obtain ⟨since, holding⟩ := holds
  refine Request.ends_bind.2 (Request.Ends.mono holding.release ?_ fun _ _ holds => holds)
  rintro free after ⟨since, holding, may⟩
  cases free with
  | false => exact Request.ends_pure.2 ⟨since, holding⟩
  | true =>
    refine Request.ends_bind.2 (Request.Ends.mono (holding.delete (may rfl)) ?_
      fun _ _ holds => holds)
    exact fun _ after holds => Request.ends_pure.2 holds

end

/-! ## Passes -/

/-- From one phase of a drain among others to the next. -/
theorem removes_among (event : Pod) :
    (pods event).Removes Shared.around (fun _ shared => Drains (slotOf event) shared.history)
      (fun _ => Searching (slotOf event))
      (fun current _ shared => (current = [] ∧ Searching (slotOf event) shared) ∨
        ∃ copy, current = [copy] ∧ Holds (slotOf event) copy shared)
      (fun current _ _ shared => (current = [] ∧ Searching (slotOf event) shared) ∨
        ∃ copy, current = [copy] ∧ Holds (slotOf event) copy shared)
      (fun change _ shared => (change.delete = [] ∧ Drains (slotOf event) shared.history) ∨
        ∃ copy, change.delete = [copy] ∧ Holds (slotOf event) copy shared)
      (fun _ shared => Drains (slotOf event) shared.history) where
  reads := by
    refine Work.leads_ofRequest fun context going shared searching => ?_
    refine Request.Ends.mono searching.getExisting (fun _ _ read => read) ?_
    exact fun failure after searching => ⟨searching.drains, fun _ => searching⟩
  desires current := Work.leads_pure fun context shared going read => read
  patches current desired := by
    refine Work.leads_pure fun context shared going read => ?_
    rcases read with ⟨rfl, searching⟩ | ⟨copy, rfl, holds⟩
    · exact .inl ⟨rfl, searching.drains⟩
    · show (Diff.owned [copy] desired = [] ∧ _) ∨ ∃ other, Diff.owned [copy] desired = [other] ∧ _
      cases wanted : Diff.hasKey desired copy.key with
      | true => exact .inr ⟨copy, List.filter_cons_of_pos wanted, holds⟩
      | false =>
        refine .inl ⟨List.filter_cons_of_neg ?_, holds.drains⟩
        exact Bool.not_eq_true _ ▸ wanted
  deletesNothing := by
    rintro change context shared nothing (⟨-, drains⟩ | ⟨copy, chosen, -⟩)
    · exact drains
    · cases nothing.symm.trans chosen
  deletes change something := by
    refine Work.leads_ofRequest fun context going shared chosen => ?_
    rcases chosen with ⟨nothing, -⟩ | ⟨copy, chosen, holds⟩
    · exact absurd nothing something
    · rw [chosen]
      refine Request.Ends.mono holds.drain (fun _ _ holds => holds.drains) ?_
      exact fun failure after holds => ⟨holds.drains, fun _ => .inr ⟨copy, rfl, holds⟩⟩

/-- A pass leaves a history of its own whatever becomes of it. -/
theorem drains_of_handler {event : Pod} {handler : Handler Program} {all : Collections}
    {schedule : List (List Act)}
    (handles : (Pass.handle .delete handler).Reaches Shared.around
      (fun _ shared => Drains (slotOf event) shared.history)
      (fun _ shared => Drains (slotOf event) shared.history) { event := .delete }
      ⟨all, schedule, []⟩) :
    Drains (slotOf event)
      (Shared.run ⟨all, schedule, []⟩ (Pass.run .delete [handler]).run).2.history := by
  have ends := Shared.run_of_ends (Pass.run_single handles)
  revert ends
  cases (Shared.run ⟨all, schedule, []⟩ (Pass.run .delete [handler]).run).1 with
  | error failure => exact fun ⟨_, drains⟩ => drains
  | ok outcome =>
    cases outcome with
    | completed => exact fun ⟨_, drains⟩ => drains
    | cancelled resource => exact fun ⟨_, _, drains⟩ => drains

/-- Whatever others do between the calls, and however often they are tried again: a pod is released
as it was read or not at all, and it is deleted only when that was done, or when there was nothing
to release. -/
theorem drains_among_others (config : Config) (event : Pod) {all : Collections}
    (sound : all.Sound) (schedule : List (List Act)) :
    let retried := Pass.overPod config event .delete
    let once := Pass.run .delete [(pods event).handler]
    Drains (slotOf event) (Shared.run ⟨all, schedule, []⟩ retried.run).2.history ∧
      Drains (slotOf event) (Shared.run ⟨all, schedule, []⟩ once.run).2.history := by
  have searching : Searching (slotOf event) ⟨all, schedule, []⟩ :=
    ⟨sound, fun moment mem => absurd mem List.not_mem_nil⟩
  have removes := removes_among event
  constructor
  · have wrapped := removes.wrapped config.retry (podScope event)
    exact drains_of_handler (wrapped.ensureDeleted rfl searching)
  · exact drains_of_handler (removes.ensureDeleted rfl searching)

/-- Somebody puts a pod there before it is looked for, and writes it before it is released: the
release is refused, and no deletion is made. -/
theorem drains_among_others_contested :
    let shared := Shared.run
      ⟨{}, [[.insert .pod masterPod], [.insert .pod (released masterPod)]], []⟩
      (Pass.overPod {} masterPod .delete).run
    ({} : Collections).Sound ∧ shared.1 = .ok .completed ∧
      (shared.2.collections.get .pod).deletions = [] ∧
      Drains (slotOf masterPod) shared.2.history := by
  have sound : ({} : Collections).Sound := by
    intro kind
    cases kind <;> exact Collection.sound_empty
  exact ⟨sound, by rfl, by rfl, (drains_among_others {} masterPod sound _).1⟩

end GuestFleet.Resource
