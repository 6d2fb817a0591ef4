import GuestFleet.Proofs.Store.Ledger
import GuestFleet.Proofs.Store.Touched

/-!
# Collections that clients share

A program runs on collections that others read and write too. Every call is a step of its own,
and between two calls of the program the others take any steps they like. A history remembers
who did what, and what the collections were like right before.
-/

namespace GuestFleet

namespace Store

open Kube (Kind Object)

/-! ## Steps -/

/-- What a client of the collections can do in one step. -/
inductive Act where
  /-- Writes an object whatever is in its slot. -/
  | insert (kind : Kind) (object : Object kind)
  | call (command : Command)

namespace Act

/-- The collections after a step. -/
def on : Act -> Collections -> Collections
  | .insert kind object, all => all.set kind ((all.get kind).insert object)
  | .call command, all => (World.answer command { collections := all }).2.collections

/-- The step writes to a slot, or empties it. A call that fails does neither. -/
def Writes (all : Collections) (kind : Kind) (slot : Slot) : Act -> Prop
  | .insert own object => own = kind ∧ slotOf object = slot
  | .call (.create own object) =>
    own = kind ∧ slotOf object = slot ∧ ((all.get own).create object).1.isOk = true
  | .call (.replace own object) =>
    own = kind ∧ slotOf object = slot ∧ ((all.get own).replace object).1.isOk = true
  | .call (.delete own space name grace) =>
    own = kind ∧ Slot.make space name = slot ∧
      ((all.get own).delete (.make space name) grace).1.isOk = true
  | .call _ => False

end Act

/-- A step that was taken, by the program or by somebody else. -/
structure Moment where
  own : Bool
  act : Act
  /-- The collections right before the step. -/
  before : Collections

/-- Collections between the steps of several clients. -/
structure Shared where
  collections : Collections
  /-- The steps that others take before each of the program's calls to come. -/
  schedule : List (List Act) := []
  /-- The steps so far, the latest first. -/
  history : List Moment := []

namespace Shared

/-- A step is taken and remembered. -/
def takes (own : Bool) (shared : Shared) (act : Act) : Shared :=
  { shared with
    collections := act.on shared.collections
    history := ⟨own, act, shared.collections⟩ :: shared.history }

/-- The others take the steps that they take before the next call. -/
def interrupted (shared : Shared) : Shared :=
  (shared.schedule.headD []).foldl (takes false) { shared with schedule := shared.schedule.tail }

/-- Answers a command of the program. The others may come before a call of the collections;
commands that are no such calls leave everything as it is. -/
def answer : (command : Command) -> Shared -> command.Reply × Shared
  | .patchCluster _ _ _, shared => (.ok (), shared)
  | .now, shared => (⟨0, false⟩, shared)
  | .pause _, shared => ((), shared)
  | .record _, shared => ((), shared)
  | command, shared =>
    ((World.answer command { collections := shared.interrupted.collections }).1,
      shared.interrupted.takes true (.call command))

/-- Runs a program between the steps of others. -/
def run (shared : Shared) (program : Program α) : α × Shared := program.run answer shared

/-- The surroundings of a program that shares the collections. -/
def around : Surroundings Shared where
  answers shared command reply after := answer command shared = (reply, after)
  pause_quiet := by
    intro shared span reply after answered
    exact (congrArg Prod.snd answered).symm
  record_quiet := by
    intro shared event reply after answered
    exact (congrArg Prod.snd answered).symm

/-- What holds at the end of a program among others holds at the end of every run. -/
theorem run_of_ends {program : Program α} {shared : Shared} {post : α -> Shared -> Prop}
    (ends : program.Ends around shared post) :
    post (shared.run program).1 (shared.run program).2 := by
  induction program generalizing shared with
  | done value => exact ends
  | step command next ih => exact ih _ (ends _ _ rfl)

end Shared

/-! ## What steps leave -/

namespace Collection

variable {kind : Kind} {c d e : Collection kind} {wrote wroteToo : Slot -> Prop}

/-- From one collection to the other only some slots were written to or emptied. What is in such
a slot now has a version that was not given before. -/
structure Traced (wrote : Slot -> Prop) (c d : Collection kind) : Prop where
  later : c.nextVersion ≤ d.nextVersion
  kept : ∀ slot, ¬ wrote slot -> d.stored slot = c.stored slot
  renewed : ∀ slot, wrote slot -> ∀ object, d.stored slot = some object ->
    ∃ version, c.nextVersion ≤ version ∧
      object.metadata.resourceVersion = some (versionText version)

/-- Where no slot was written a like collection is left. -/
theorem traced_alike (nothing : ∀ slot, ¬ wrote slot) (alike : c.Alike d) : Traced wrote c d := by
  refine ⟨alike.2.ge, fun slot _ => alike.stored slot, ?_⟩
  intro slot written
  exact absurd written (nothing slot)

/-- Writing an object traces the write of its slot. -/
theorem traced_insert {object : Object kind} (only : ∀ slot, wrote slot <-> slotOf object = slot)
    (alike : (c.insert object).Alike d) : Traced wrote c d := by
  refine ⟨?_, ?_, ?_⟩
  · rw [alike.2]
    exact Nat.le_succ c.nextVersion
  · intro slot unwritten
    rw [alike.stored, stored_insert, if_neg fun same => unwritten ((only slot).2 same.symm)]
  · intro slot written other stored
    rw [alike.stored, stored_insert, if_pos ((only slot).1 written).symm] at stored
    rw [← Option.some.inj stored]
    exact ⟨c.nextVersion, Nat.le_refl _, rfl⟩

/-- Emptying a slot traces the removal from it. -/
theorem traced_erase {emptied : Slot} (only : ∀ slot, wrote slot <-> emptied = slot)
    (alike : (c.erase emptied).Alike d) : Traced wrote c d := by
  refine ⟨alike.2.ge, ?_, ?_⟩
  · intro slot unwritten
    rw [alike.stored, stored_erase, if_neg fun same => unwritten ((only slot).2 same.symm)]
  · intro slot written other stored
    rw [alike.stored, stored_erase, if_pos ((only slot).1 written).symm] at stored
    cases stored

/-- Steps one after the other leave the traces of both. -/
theorem Traced.trans (first : Traced wrote c d) (second : Traced wroteToo d e) :
    Traced (fun slot => wroteToo slot ∨ wrote slot) c e := by
  refine ⟨first.later.trans second.later, ?_, ?_⟩
  · intro slot unwritten
    rw [not_or] at unwritten
    rw [second.kept slot unwritten.1, first.kept slot unwritten.2]
  · intro slot written object stored
    by_cases late : wroteToo slot
    · obtain ⟨version, new, carried⟩ := second.renewed slot late object stored
      exact ⟨version, first.later.trans new, carried⟩
    · rw [second.kept slot late] at stored
      exact first.renewed slot (written.resolve_left late) object stored

/-- What was traced is traced under any description of the same slots. -/
theorem Traced.congr (traced : Traced wrote c d) (same : ∀ slot, wroteToo slot <-> wrote slot) :
    Traced wroteToo c d :=
  ⟨traced.later, fun slot unwritten => traced.kept slot (mt (same slot).2 unwritten),
    fun slot written => traced.renewed slot ((same slot).1 written)⟩

/-- An object that still carries the version that was read is the one that was read: its slot
was not written since. -/
theorem Traced.unwritten (traced : Traced wrote c d) (sound : c.Sound) {slot : Slot}
    {read held : Object kind} (before : c.stored slot = some read) (now : d.stored slot = some held)
    (same : held.metadata.resourceVersion = read.metadata.resourceVersion) :
    ¬ wrote slot ∧ held = read := by
  have unwritten : ¬ wrote slot := by
    intro written
    obtain ⟨version, new, carried⟩ := traced.renewed slot written held now
    obtain ⟨early, old, carriedBefore⟩ := sound.dated _ (mem_of_lookup before)
    have texts : some (versionText version) = some (versionText early) :=
      carried.symm.trans (same.trans carriedBefore)
    have equal := versionText_injective (Option.some.inj texts)
    omega
  exact ⟨unwritten, Option.some.inj (now.symm.trans ((traced.kept slot unwritten).trans before))⟩

end Collection

/-- A step in the collection of one kind leaves no traces in the others. -/
theorem Collections.traced_set {all : Collections} {own : Kind} {c : Collection own}
    {wrote : Slot -> Prop} (traced : Collection.Traced wrote (all.get own) c) (kind : Kind) :
    Collection.Traced (fun slot => own = kind ∧ wrote slot) (all.get kind)
      ((all.set own c).get kind) := by
  by_cases same : own = kind
  · subst same
    rw [get_set]
    exact traced.congr fun slot => and_iff_right rfl
  · rw [get_set_of_ne all c (Ne.symm same)]
    exact Collection.traced_alike (fun slot written => same written.1) .refl

namespace Act

/-- A step of a client leaves traces in the slots that it writes to. -/
theorem traced (act : Act) (all : Collections) (kind : Kind) :
    Collection.Traced (fun slot => act.Writes all kind slot) (all.get kind)
      ((act.on all).get kind) := by
  have nothing {own : Kind} {c : Collection own} (alike : (all.get own).Alike c) :
      Collection.Traced (fun _ => False) (all.get kind) ((all.set own c).get kind) := by
    have quiet : Collection.Traced (fun _ => False) (all.get own) c :=
      Collection.traced_alike (fun _ => id) alike
    exact (Collections.traced_set quiet kind).congr fun slot => ⟨False.elim, And.right⟩
  cases act with
  | insert own object =>
    exact Collections.traced_set (Collection.traced_insert (fun _ => Iff.rfl) .refl) kind
  | call command =>
    cases command with
    | get own space name => exact nothing (Collection.get_alike _ _)
    | list own space selector => exact nothing (Collection.list_alike _ _ _)
    | create own object =>
      refine Collections.traced_set ?_ kind
      rcases (all.get own).create_outcome object with ⟨failed, alike⟩ | ⟨written, alike⟩
      · exact Collection.traced_alike (fun _ claimed => by simp [failed] at claimed) alike
      · exact Collection.traced_insert (fun _ => and_iff_left written) alike
    | replace own object =>
      refine Collections.traced_set ?_ kind
      rcases (all.get own).replace_outcome object with ⟨failed, alike⟩ | ⟨written, alike⟩
      · exact Collection.traced_alike (fun _ claimed => by simp [failed] at claimed) alike
      · exact Collection.traced_insert (fun _ => and_iff_left written) alike
    | delete own space name grace =>
      refine Collections.traced_set ?_ kind
      rcases (all.get own).delete_outcome (.make space name) grace with
        ⟨failed, alike⟩ | ⟨written, alike⟩
      · exact Collection.traced_alike (fun _ claimed => by simp [failed] at claimed) alike
      · exact Collection.traced_erase (fun _ => and_iff_left written) alike
    | patchCluster space name patch => exact Collection.traced_alike (fun _ => id) .refl
    | now => exact Collection.traced_alike (fun _ => id) .refl
    | pause span => exact Collection.traced_alike (fun _ => id) .refl
    | record event => exact Collection.traced_alike (fun _ => id) .refl

/-- No step makes sound collections unsound. -/
theorem sound_on (act : Act) {all : Collections} (sound : all.Sound) : (act.on all).Sound := by
  intro kind
  cases act with
  | insert own object =>
    show ((all.set own ((all.get own).insert object)).get kind).Sound
    by_cases same : kind = own
    · subst same
      rw [Collections.get_set]
      exact (sound kind).insert object
    · rw [Collections.get_set_of_ne _ _ same]
      exact sound kind
  | call command => exact (answer_effect command { collections := all } kind).sound (sound kind)

/-- A replacement that fails leaves all collections as they were. -/
theorem alike_of_refused {all : Collections} {kind : Kind} {object : Object kind}
    (refused : ((all.get kind).replace object).1.isOk = false) (other : Kind) :
    (all.get other).Alike ((on (.call (.replace kind object)) all).get other) := by
  show (all.get other).Alike ((all.set kind ((all.get kind).replace object).2).get other)
  by_cases same : other = kind
  · subst same
    rw [Collections.get_set]
    rcases (all.get other).replace_outcome object with ⟨-, alike⟩ | ⟨written, -⟩
    · exact alike
    · cases written.symm.trans refused
  · rw [Collections.get_set_of_ne _ _ same]
    exact .refl

end Act

/-! ## The turns of others -/

/-- What others did between two states that are shared. -/
structure Interlude (before after : Shared) (between : List Moment) : Prop where
  history : after.history = between ++ before.history
  others : ∀ moment ∈ between, moment.own = false
  sound : before.collections.Sound -> after.collections.Sound
  traced : ∀ kind, Collection.Traced
    (fun slot => ∃ moment ∈ between, moment.act.Writes moment.before kind slot)
    (before.collections.get kind) (after.collections.get kind)

namespace Interlude

variable {before middle after : Shared} {early late : List Moment}

/-- Nothing happens in no time. -/
theorem refl (shared : Shared) : Interlude shared shared [] := by
  refine ⟨rfl, fun _ mem => absurd mem List.not_mem_nil, id, fun kind => ?_⟩
  refine Collection.traced_alike ?_ .refl
  rintro slot ⟨moment, mem, -⟩
  cases mem

/-- What happens in two stretches of time happens in both together. -/
theorem trans (first : Interlude before middle early) (second : Interlude middle after late) :
    Interlude before after (late ++ early) := by
  refine ⟨?_, ?_, second.sound ∘ first.sound, fun kind => ?_⟩
  · rw [second.history, first.history, List.append_assoc]
  · intro moment mem
    rcases List.mem_append.1 mem with mem | mem
    · exact second.others moment mem
    · exact first.others moment mem
  · refine ((first.traced kind).trans (second.traced kind)).congr fun slot => ?_
    simp only [List.mem_append, or_and_right, exists_or]

/-- One step of somebody else. -/
theorem takes (shared : Shared) (act : Act) :
    Interlude shared (shared.takes false act) [⟨false, act, shared.collections⟩] := by
  refine ⟨rfl, ?_, act.sound_on, fun kind => ?_⟩
  · intro moment mem
    rw [List.mem_singleton.1 mem]
  · refine (act.traced shared.collections kind).congr fun slot => ?_
    simp only [List.mem_singleton, exists_eq_left]

/-- The steps of others, one after the other. -/
theorem foldl (acts : List Act) (shared : Shared) :
    ∃ between, Interlude shared (acts.foldl (Shared.takes false) shared) between := by
  induction acts generalizing shared with
  | nil => exact ⟨[], refl shared⟩
  | cons act acts ih =>
    obtain ⟨between, later⟩ := ih (shared.takes false act)
    exact ⟨_, (takes shared act).trans later⟩

end Interlude

/-- Whatever others do before a call, it is an interlude. -/
theorem Shared.interlude (shared : Shared) :
    ∃ between, Interlude shared shared.interrupted between := by
  obtain ⟨between, interlude⟩ := Interlude.foldl (shared.schedule.headD [])
    { shared with schedule := shared.schedule.tail }
  exact ⟨between, interlude.history, interlude.others, interlude.sound, interlude.traced⟩

end Store

end GuestFleet
