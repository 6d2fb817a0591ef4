import GuestFleet.Proofs.Store.Calls

/-!
# Histories of a collection

Any number of clients use one collection in any order, while failures are ordered for calls to
come. A history remembers the writes that were made, each with the resource version that it left.
No version is given twice, so a replacement that names a version tells whether anyone else has
written in between. Versions are natural numbers here: a history may be of any length.
-/

namespace GuestFleet.Store.Collection

open Kube (Kind Object)

variable {kind : Kind}

/-! ## Single accesses -/

/-- What can be done to a collection in one step, by whichever client. -/
inductive Access (kind : Kind) where
  /-- Writes an object whatever is in its slot. -/
  | insert (object : Object kind)
  | get (slot : Slot)
  | list (space : Option String) (selector : String)
  | create (object : Object kind)
  | replace (object : Object kind)
  | delete (slot : Slot) (grace : Option Nat)
  /-- Orders failures for the next calls of an operation. -/
  | failNext (times : Nat) (fault : Fault)

namespace Access

variable (access : Access kind) (c : Collection kind)

/-- The collection after an access. -/
def on : Access kind -> Collection kind -> Collection kind
  | .insert object, c => c.insert object
  | .get slot, c => (c.get slot).2
  | .list space selector, c => (c.list space selector).2
  | .create object, c => (c.create object).2
  | .replace object, c => (c.replace object).2
  | .delete slot grace, c => (c.delete slot grace).2
  | .failNext times fault, c => c.failNext times fault

/-- The access is not answered with a failure. -/
def succeeds : Access kind -> Collection kind -> Bool
  | .insert _, _ => true
  | .get slot, c => (c.get slot).1.isOk
  | .list space selector, c => (c.list space selector).1.isOk
  | .create object, c => (c.create object).1.isOk
  | .replace object, c => (c.replace object).1.isOk
  | .delete slot grace, c => (c.delete slot grace).1.isOk
  | .failNext _ _, _ => true

/-- The slot that an access is to write an object to. -/
def target : Access kind -> Option Slot
  | .insert object => some (slotOf object)
  | .create object => some (slotOf object)
  | .replace object => some (slotOf object)
  | _ => none

/-- The slot that an access writes an object to. One that fails writes nothing. -/
def written : Option Slot := if access.succeeds c then access.target else none

/-- What became of a collection when nothing, or one slot, was written to. -/
inductive Outcome (c d : Collection kind) : Option Slot -> Prop where
  | kept (alike : c.Alike d) : Outcome c d none
  | erased (slot : Slot) (alike : (c.erase slot).Alike d) : Outcome c d none
  | written (object : Object kind) (alike : (c.insert object).Alike d) :
    Outcome c d (some (slotOf object))

/-- A write has the outcome that its success tells. -/
theorem outcome_of_write {object : Object kind} {succeeds : Bool} {d : Collection kind}
    (cases : (succeeds = false ∧ c.Alike d) ∨ (succeeds = true ∧ (c.insert object).Alike d)) :
    Outcome c d (if succeeds then some (slotOf object) else none) := by
  rcases cases with ⟨rfl, alike⟩ | ⟨rfl, alike⟩
  · exact .kept alike
  · exact .written object alike

/-- Every access keeps the objects, takes one away or writes one. -/
theorem outcome : Outcome c (access.on c) (access.written c) := by
  have unwritten {d : Collection kind} {succeeds : Bool} (outcome : Outcome c d none) :
      Outcome c d (if succeeds then none else none) := by
    rwa [ite_self]
  cases access with
  | insert object => exact .written object .refl
  | get slot => exact unwritten (.kept (c.get_alike slot))
  | list space selector => exact unwritten (.kept (c.list_alike space selector))
  | create object => exact outcome_of_write c (c.create_outcome object)
  | replace object => exact outcome_of_write c (c.replace_outcome object)
  | delete slot grace =>
    rcases c.delete_effect slot grace with alike | alike
    · exact unwritten (.kept alike)
    · exact unwritten (.erased slot alike)
  | failNext times fault => exact .kept ⟨rfl, rfl⟩

/-- An access that fails changes neither the objects nor the version to come. -/
theorem alike_of_failed (failed : access.succeeds c = false) : c.Alike (access.on c) := by
  cases access with
  | insert object => cases failed
  | get slot => exact c.get_alike slot
  | list space selector => exact c.list_alike space selector
  | create object =>
    rcases c.create_outcome object with ⟨-, alike⟩ | ⟨succeeded, -⟩
    · exact alike
    · cases succeeded.symm.trans failed
  | replace object =>
    rcases c.replace_outcome object with ⟨-, alike⟩ | ⟨succeeded, -⟩
    · exact alike
    · cases succeeded.symm.trans failed
  | delete slot grace =>
    rcases c.delete_outcome slot grace with ⟨-, alike⟩ | ⟨succeeded, -⟩
    · exact alike
    · cases succeeded.symm.trans failed
  | failNext times fault => cases failed

end Access

/-! ## Histories -/

/-- The resource version of what is in a slot. -/
def versionAt (c : Collection kind) (slot : Slot) : Option String :=
  (c.stored slot).bind (·.metadata.resourceVersion)

/-- A collection and the writes that have made it what it is. -/
structure History (kind : Kind) where
  collection : Collection kind := {}
  /-- The slots that were written to, the latest first, each with the version that was in it
  right after. -/
  writes : List (Slot × Option String) := []

namespace History

/-- The history with one more access. -/
def next (history : History kind) (access : Access kind) : History kind :=
  let after := access.on history.collection
  let written := (access.written history.collection).map fun slot => (slot, after.versionAt slot)
  { collection := after, writes := written.toList ++ history.writes }

/-- The history with more accesses. -/
def run (accesses : List (Access kind)) (history : History kind) : History kind :=
  accesses.foldl next history

/-- The history of a collection that was empty at first. -/
def of (accesses : List (Access kind)) : History kind := run accesses {}

/-- The resource version that the last write to a slot gave. -/
def lastGiven (history : History kind) (slot : Slot) : Option String :=
  (List.lookup slot history.writes).join

/-- Later accesses go on from the history of the earlier ones. -/
theorem of_append (accesses later : List (Access kind)) :
    of (accesses ++ later) = run later (of accesses) := List.foldl_append

/-- An access that wrote a slot is noted with the version it gave. -/
theorem writes_next {history : History kind} {access : Access kind} {slot : Slot}
    (written : access.written history.collection = some slot) :
    ∃ given, (history.next access).writes = (slot, given) :: history.writes := by
  rw [next, written]
  exact ⟨_, rfl⟩

/-- Writes are never forgotten. -/
theorem writes_run (accesses : List (Access kind)) (history : History kind) :
    ∃ later, (history.run accesses).writes = later ++ history.writes := by
  induction accesses generalizing history with
  | nil => exact ⟨[], rfl⟩
  | cons access accesses ih =>
    obtain ⟨later, eq⟩ := ih (history.next access)
    exact ⟨later ++ _, eq.trans (List.append_assoc _ _ _).symm⟩

/-- What holds of the versions in a history. -/
structure Dated (history : History kind) : Prop where
  sound : history.collection.Sound
  /-- Every write gave a version, and all of them are used up. -/
  given : ∀ write ∈ history.writes,
    ∃ version < history.collection.nextVersion, write.2 = some (versionText version)
  /-- No two writes gave the same version. -/
  once : (history.writes.map Prod.snd).Nodup
  /-- What is in a slot carries the version of the last write to it. -/
  held : ∀ slot object, history.collection.stored slot = some object ->
    List.lookup slot history.writes = some object.metadata.resourceVersion

/-- A collection in which nothing is new goes with the same writes. -/
theorem Dated.unwritten {history : History kind} (dated : history.Dated) {after : Collection kind}
    (sound : after.Sound) (version : after.nextVersion = history.collection.nextVersion)
    (old : ∀ slot object, after.stored slot = some object ->
      history.collection.stored slot = some object) :
    Dated { history with collection := after } := by
  refine ⟨sound, ?_, dated.once, fun slot object stored => ?_⟩
  · intro write mem
    rw [version]
    exact dated.given write mem
  · exact dated.held slot object (old slot object stored)

/-- The version of a write is a new one. -/
theorem Dated.written {history : History kind} (dated : history.Dated) {after : Collection kind}
    {object : Object kind} (alike : (history.collection.insert object).Alike after) :
    Dated ⟨after, (slotOf object, after.versionAt (slotOf object)) :: history.writes⟩ := by
  have here : after.versionAt (slotOf object) =
      some (versionText history.collection.nextVersion) := by
    rw [versionAt, alike.stored, stored_insert, if_pos rfl]
    rfl
  have later : after.nextVersion = history.collection.nextVersion + 1 := alike.2
  rw [here]
  refine ⟨alike.sound (dated.sound.insert object), ?given, List.nodup_cons.2 ⟨?new, dated.once⟩,
    ?held⟩
  case given =>
    intro write mem
    rw [later]
    rcases List.mem_cons.1 mem with rfl | mem
    · exact ⟨_, Nat.lt_succ_self _, rfl⟩
    · obtain ⟨version, old, eq⟩ := dated.given write mem
      exact ⟨version, Nat.lt_succ_of_lt old, eq⟩
  case new =>
    intro mem
    obtain ⟨write, among, same⟩ := List.mem_map.1 mem
    obtain ⟨version, old, eq⟩ := dated.given write among
    have equal := versionText_injective (Option.some.inj (eq.symm.trans same))
    omega
  case held =>
    intro slot found stored
    rw [alike.stored, stored_insert] at stored
    rw [Entries.lookup_cons]
    split_ifs at stored ⊢ with own
    · rw [← Option.some.inj stored]
      rfl
    · exact dated.held slot found stored

/-- An access keeps the versions in order. -/
theorem Dated.next {history : History kind} (dated : history.Dated) (access : Access kind) :
    (history.next access).Dated := by
  have outcome := access.outcome history.collection
  unfold History.next
  generalize access.on history.collection = after at outcome
  generalize access.written history.collection = written at outcome
  cases outcome with
  | kept alike =>
    refine dated.unwritten (alike.sound dated.sound) alike.2 fun slot object stored => ?_
    rwa [alike.stored] at stored
  | erased emptied alike =>
    refine dated.unwritten (alike.sound (dated.sound.erase emptied)) alike.2
      fun slot object stored => ?_
    rw [alike.stored, stored_erase] at stored
    split_ifs at stored
    exact stored
  | written object alike => exact dated.written alike

/-- However long it runs, a history stays dated. -/
theorem Dated.run {history : History kind} (dated : history.Dated)
    (accesses : List (Access kind)) : (history.run accesses).Dated := by
  induction accesses generalizing history with
  | nil => exact dated
  | cons access accesses ih => exact ih (dated.next access)

/-- Every history is dated. -/
theorem dated_of (accesses : List (Access kind)) : (of accesses).Dated := by
  refine Dated.run ⟨sound_empty, ?_, ?_, ?_⟩ accesses
  · intro write mem
    cases mem
  · exact List.nodup_nil
  · intro slot object stored
    cases stored

namespace Dated

variable {history : History kind} (dated : history.Dated)

include dated

/-- A version tells to which slot it was given. -/
theorem slot_eq {a b : Slot} {version : Option String} (memA : (a, version) ∈ history.writes)
    (memB : (b, version) ∈ history.writes) : a = b :=
  congrArg Prod.fst (List.inj_on_of_nodup_map dated.once memA memB rfl)

/-- The version of what is stored was given by a write of its slot. -/
theorem mem_writes {slot : Slot} {object : Object kind}
    (stored : history.collection.stored slot = some object) :
    (slot, object.metadata.resourceVersion) ∈ history.writes :=
  Entries.mem_of_lookup (dated.held slot object stored)

/-- No two objects carry the same version. -/
theorem distinct :
    (history.collection.objects.map fun entry => entry.2.metadata.resourceVersion).Nodup := by
  refine List.Nodup.map_on ?_ (List.Nodup.of_map _ dated.sound.inOrder.nodup)
  rintro ⟨a, objectA⟩ memA ⟨b, objectB⟩ memB same
  have storedA := dated.sound.stored_of_mem memA
  have storedB := dated.sound.stored_of_mem memB
  have slots : a = b := by
    refine dated.slot_eq (dated.mem_writes storedA) ?_
    rw [show objectA.metadata.resourceVersion = _ from same]
    exact dated.mem_writes storedB
  subst slots
  rw [Option.some.inj (storedA.symm.trans storedB)]

/-- A replacement that names a version is made if and only if that version is the one that the
last write to the slot gave, and what was written is still there. -/
theorem replaced_iff {object : Object kind} {version : String}
    (named : object.metadata.resourceVersion = some version)
    (free : ¬ history.collection.Awaits .replace) :
    (history.collection.replace object).1.isOk = true <->
      (history.collection.stored (slotOf object)).isSome = true ∧
        history.lastGiven (slotOf object) = some version := by
  constructor
  · intro replaced
    obtain ⟨existing, stored, may⟩ := stored_of_replaced _ object replaced
    refine ⟨Option.isSome_of_eq_some stored, ?_⟩
    rw [lastGiven, dated.held _ existing stored, version_of_mayReplace may named]
    rfl
  · rintro ⟨there, last⟩
    obtain ⟨existing, stored⟩ := Option.isSome_iff_exists.1 there
    rw [lastGiven, dated.held _ existing stored] at last
    exact replaced_of_stored _ object free stored (mayReplace_own (named.trans last.symm))

/-- Once a slot was written to again, no object carries the version that it had before. -/
theorem superseded {later former : List (Slot × Option String)} {slot : Slot}
    {given : Option String} {version : String}
    (writes : history.writes = later ++ (slot, given) :: former)
    (before : (slot, some version) ∈ former) {other : Slot} {object : Object kind}
    (stored : history.collection.stored other = some object) :
    object.metadata.resourceVersion ≠ some version := by
  intro carried
  have among : (slot, some version) ∈ history.writes := by
    rw [writes]
    exact List.mem_append_right _ (List.mem_cons_of_mem _ before)
  have last := dated.held other object stored
  obtain rfl : other = slot := dated.slot_eq (carried ▸ dated.mem_writes stored) among
  have once := dated.once
  rw [writes, List.map_append, List.map_cons] at once
  obtain ⟨-, onceFormer, apart⟩ := List.nodup_append.1 once
  have old : some version ∈ former.map Prod.snd := List.mem_map_of_mem before
  -- The write that a lookup finds is not older than the one after which nothing is left.
  rw [carried, writes, List.lookup_append] at last
  cases found : List.lookup other later with
  | none =>
    rw [found, Option.none_or, Entries.lookup_cons, if_pos rfl] at last
    exact (List.nodup_cons.1 onceFormer).1 (Option.some.inj last ▸ old)
  | some version =>
    rw [found, Option.some_or] at last
    have new := List.mem_map_of_mem (f := Prod.snd) (Entries.mem_of_lookup found)
    exact apart _ new _ (List.mem_cons_of_mem _ old) (Option.some.inj last)

/-- Of two replacements that name the same version, whatever happens in between, one fails. -/
theorem replaced_once {first second : Object kind} {version : String}
    (named : first.metadata.resourceVersion = some version)
    (namedToo : second.metadata.resourceVersion = some version)
    (replaced : (history.collection.replace first).1.isOk = true) (between : List (Access kind)) :
    ((history.run (.replace first :: between)).collection.replace second).1.isOk = false := by
  obtain ⟨existing, stored, may⟩ := stored_of_replaced _ first replaced
  have before := dated.mem_writes stored
  rw [version_of_mayReplace may named] at before
  obtain ⟨later, writes⟩ := writes_run between (history.next (.replace first))
  have written : (Access.replace first).written history.collection = some (slotOf first) :=
    if_pos replaced
  obtain ⟨given, remembered⟩ := writes_next written
  rw [remembered] at writes
  refine Bool.eq_false_iff.2 fun replacedToo => ?_
  obtain ⟨held, storedToo, mayToo⟩ := stored_of_replaced _ second replacedToo
  exact (dated.run (.replace first :: between)).superseded writes before storedToo
    (version_of_mayReplace mayToo namedToo)

end Dated

end History

/-! ## Optimistic concurrency -/

/-- Whatever the clients of a collection do, no version is given twice, the versions of the
objects are distinct and used up, a replacement that names a version is made only when that is
the latest of its slot, at most one of two that name the same version is made, and a call that
fails changes nothing. -/
theorem versions_guard_writes (accesses : List (Access kind)) :
    let history := History.of accesses
    (history.writes.map Prod.snd).Nodup ∧
    (history.collection.objects.map fun entry => entry.2.metadata.resourceVersion).Nodup ∧
    (∀ entry ∈ history.collection.objects, ∃ version < history.collection.nextVersion,
      entry.2.metadata.resourceVersion = some (versionText version)) ∧
    (∀ object version, object.metadata.resourceVersion = some version ->
      ¬ history.collection.Awaits .replace ->
      ((history.collection.replace object).1.isOk = true <->
        (history.collection.stored (slotOf object)).isSome = true ∧
          history.lastGiven (slotOf object) = some version)) ∧
    (∀ first second version between,
      first.metadata.resourceVersion = some version ->
      second.metadata.resourceVersion = some version ->
      (history.collection.replace first).1.isOk = true ->
      ((History.of (accesses ++ .replace first :: between)).collection.replace second).1.isOk
        = false) ∧
    (∀ access : Access kind, access.succeeds history.collection = false ->
      (access.on history.collection).objects = history.collection.objects ∧
        (access.on history.collection).nextVersion = history.collection.nextVersion) := by
  have dated := History.dated_of accesses
  refine ⟨dated.once, dated.distinct, dated.sound.dated, ?_, ?_, ?_⟩
  · intro object version named free
    exact dated.replaced_iff named free
  · intro first second version between named namedToo replaced
    rw [History.of_append]
    exact dated.replaced_once named namedToo replaced between
  · intro access failed
    exact access.alike_of_failed _ failed

/-- A pod as a client writes it that has read a version of it. -/
def readPod (version : String) : Object .pod :=
  { metadata :=
      { name := some "master"
        namespaceName := some "al9qy"
        resourceVersion := some version }
    body := () }

/-- A pod is written with a version that nobody gave, and read. -/
def seeding : List (Access .pod) := [.insert (readPod "7"), .get ⟨"al9qy", "master"⟩]

/-- Two clients replace a pod that both have read: the second one is refused, and the first one
is refused as well when it tries again after the pod was deleted and created anew. -/
theorem versions_guard_writes_twice :
    ((History.of seeding).collection.replace (readPod "1")).1.isOk = true ∧
    ((History.of (seeding ++ [.replace (readPod "1")])).collection.replace
      (readPod "1")).1.isOk = false ∧
    ((History.of (seeding ++ [.replace (readPod "1"), .delete ⟨"al9qy", "master"⟩ none,
      .create (readPod "1")])).collection.replace (readPod "1")).1.isOk = false := by
  obtain ⟨-, -, -, exactly, once, -⟩ := versions_guard_writes seeding
  have replaced : ((History.of seeding).collection.replace (readPod "1")).1.isOk = true := by
    have free : ¬ (History.of seeding).collection.Awaits .replace := not_awaits.2 rfl
    exact (exactly (readPod "1") "1" rfl free).2 ⟨rfl, rfl⟩
  exact ⟨replaced, once _ _ "1" [] rfl rfl replaced, once _ _ "1" _ rfl rfl replaced⟩

end GuestFleet.Store.Collection
