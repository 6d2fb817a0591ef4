import GuestFleet.Proofs.Reconcile.Tries
import GuestFleet.Store.Collection
import GuestFleet.Store.Requests

/-!
# Guarded programs

An invariant that every command of some set keeps is kept by every program that issues
only such commands. Which commands a program issues depends on the replies that it gets,
so that a guard also says what replies are like: about the object that was asked for.
-/

namespace GuestFleet

open Kube (Kind Object)
open Store (Slot slotOf)

variable {σ : Type} {around : Surroundings σ} {allowed : Command -> Prop} {Inv : σ -> Prop}

/-- A reply is about what was asked for: an object that was read is in the slot of the call,
and the objects of a list are in its namespace. -/
def Command.Fits : (command : Command) -> command.Reply -> Prop
  | .get _ space name, .ok object => slotOf object = .make space name
  | .list _ space _, .ok objects =>
    ∀ object ∈ objects, space.all (· == (slotOf object).space) = true
  | _, _ => True

/-- Allowed commands keep the invariant and are answered with what they asked for. -/
def Guarded (around : Surroundings σ) (allowed : Command -> Prop) (Inv : σ -> Prop) : Prop :=
  ∀ state command reply after, Inv state -> allowed command ->
    around.answers state command reply after -> Inv after ∧ command.Fits reply

/-- A guard for more commands is one for fewer. -/
theorem Guarded.mono {fewer : Command -> Prop} (guarded : Guarded around allowed Inv)
    (isFewer : ∀ command, fewer command -> allowed command) : Guarded around fewer Inv := by
  intro state command reply after holds among answered
  exact guarded state command reply after holds (isFewer command among) answered

/-- Every run of the request keeps the invariant, and a value is as demanded. -/
def Request.Keeps (around : Surroundings σ) (Inv : σ -> Prop) (request : Request α)
    (post : α -> Prop) : Prop :=
  ∀ state, Inv state ->
    request.Ends around state (fun value after => Inv after ∧ post value) fun _ => Inv

namespace Request

/-! ## Composition -/

/-- A request that only has a value keeps everything. -/
theorem keeps_pure {value : α} {post : α -> Prop} (holds : post value) :
    (pure value : Request α).Keeps around Inv post :=
  fun _ kept => ends_pure.2 ⟨kept, holds⟩

/-- A request that only fails keeps everything. -/
theorem keeps_throw {failure : Failure} {post : α -> Prop} :
    (throw failure : Request α).Keeps around Inv post :=
  fun _ kept => ends_throw.2 kept

/-- A sequence keeps what both of its parts keep. -/
theorem Keeps.bind {request : Request α} {following : α -> Request β} {between : α -> Prop}
    {post : β -> Prop} (first : request.Keeps around Inv between)
    (next : ∀ value, between value -> (following value).Keeps around Inv post) :
    (request >>= following).Keeps around Inv post := by
  intro state kept
  refine ends_bind.2 (Ends.mono (first state kept) ?_ fun _ _ kept => kept)
  rintro value after ⟨kept, holds⟩
  exact next value holds after kept

/-- An attempt keeps what the request keeps. -/
theorem Keeps.attempt {request : Request α} {post : α -> Prop}
    (keeps : request.Keeps around Inv post) :
    request.attempt.Keeps around Inv fun result => ∀ value, result = .ok value -> post value := by
  intro state kept
  refine ends_attempt.2 (Ends.mono (keeps state kept) ?_ ?_)
  · rintro value after ⟨kept, holds⟩
    refine ⟨kept, fun other same => ?_⟩
    obtain rfl := Except.ok.inj same
    exact holds
  · intro failure after kept
    exact ⟨kept, fun other same => nomatch same⟩

/-- A choice keeps what both of its branches keep. -/
theorem keeps_ite {condition : Prop} [Decidable condition] {yes no : Request α}
    {post : α -> Prop} (whenTrue : condition -> yes.Keeps around Inv post)
    (whenFalse : ¬ condition -> no.Keeps around Inv post) :
    Request.Keeps around Inv (if condition then yes else no) post := by
  by_cases holds : condition
  · rw [if_pos holds]
    exact whenTrue holds
  · rw [if_neg holds]
    exact whenFalse holds

/-- A request that keeps something may promise less of its value. -/
theorem Keeps.mono {request : Request α} {post weaker : α -> Prop}
    (keeps : request.Keeps around Inv post) (weaken : ∀ value, post value -> weaker value) :
    request.Keeps around Inv weaker := by
  intro state kept
  refine Ends.mono (keeps state kept) ?_ fun _ _ kept => kept
  rintro value after ⟨kept, holds⟩
  exact ⟨kept, weaken value holds⟩

/-- What keeps an invariant leads from the invariant to itself. -/
theorem Keeps.leads {request : Request α} {post : α -> Prop}
    (keeps : request.Keeps around Inv post) :
    request.Leads around Inv Inv fun value state => Inv state ∧ post value := by
  intro state kept
  refine Ends.mono (keeps state kept) (fun _ _ holds => holds) ?_
  intro failure after kept
  exact ⟨kept, fun _ => kept⟩

/-! ## Single commands -/

section

variable (guarded : Guarded around allowed Inv) {kind : Kind}

include guarded

/-- An allowed get keeps the invariant, and yields an object of the slot that was asked for. -/
theorem keeps_get {space : Option String} {name : String}
    (reads : allowed (.get kind space name)) :
    (get kind space name).Keeps around Inv fun object => slotOf object = .make space name := by
  intro state kept reply after answered
  obtain ⟨kept, fits⟩ := guarded state _ reply after kept reads answered
  cases reply with
  | ok object => exact ⟨kept, fits⟩
  | error failure => exact kept

/-- An allowed list keeps the invariant, and yields objects of the namespace that was asked for. -/
theorem keeps_list {space : Option String} {selector : String}
    (reads : allowed (.list kind space selector)) :
    (list kind space selector).Keeps around Inv fun objects =>
      ∀ object ∈ objects, space.all (· == (slotOf object).space) = true := by
  intro state kept reply after answered
  obtain ⟨kept, fits⟩ := guarded state _ reply after kept reads answered
  cases reply with
  | ok objects => exact ⟨kept, fits⟩
  | error failure => exact kept

/-- An allowed create keeps the invariant. -/
theorem keeps_create {object : Object kind} (creates : allowed (.create kind object)) :
    (create object).Keeps around Inv fun _ => True := by
  intro state kept reply after answered
  have kept := (guarded state _ reply after kept creates answered).1
  cases reply with
  | ok object => exact ⟨kept, trivial⟩
  | error failure => exact kept

/-- An allowed replace keeps the invariant. -/
theorem keeps_replace {object : Object kind} (replaces : allowed (.replace kind object)) :
    (replace object).Keeps around Inv fun _ => True := by
  intro state kept reply after answered
  have kept := (guarded state _ reply after kept replaces answered).1
  cases reply with
  | ok object => exact ⟨kept, trivial⟩
  | error failure => exact kept

/-- An allowed delete keeps the invariant. -/
theorem keeps_delete {space : Option String} {name : String} {grace : Option Nat}
    (deletes : allowed (.delete kind space name grace)) :
    (delete kind space name grace).Keeps around Inv fun _ => True := by
  intro state kept reply after answered
  have kept := (guarded state _ reply after kept deletes answered).1
  cases reply with
  | ok object => exact ⟨kept, trivial⟩
  | error failure => exact kept

/-! ## Requests for many objects -/

/-- Looking for an object keeps the invariant, and yields none but that of the slot. -/
theorem keeps_getOptional {space : Option String} {name : String}
    (reads : allowed (.get kind space name)) :
    (getOptional kind space name).Keeps around Inv fun found =>
      ∀ object ∈ found, slotOf object = .make space name := by
  refine (keeps_get guarded reads).attempt.bind fun result found => ?_
  cases result with
  | ok object =>
    refine keeps_pure fun other same => ?_
    obtain rfl := Option.some.inj same
    exact found object rfl
  | error failure =>
    exact keeps_ite (fun _ => keeps_pure fun other same => nomatch same) fun _ => keeps_throw

/-- Looking for several objects keeps the invariant, and yields none but those of their slots. -/
theorem keeps_getExisting {space : Option String} {names : List String}
    (reads : ∀ name ∈ names, allowed (.get kind space name)) :
    (getExisting kind space names).Keeps around Inv fun objects =>
      ∀ object ∈ objects, ∃ name ∈ names, slotOf object = .make space name := by
  induction names with
  | nil => exact keeps_pure fun object mem => absurd mem List.not_mem_nil
  | cons name names ih =>
    refine (keeps_getOptional guarded (reads name List.mem_cons_self)).bind fun found own => ?_
    refine (ih fun name mem => reads name (List.mem_cons_of_mem _ mem)).bind
      fun others otherOnes => ?_
    refine keeps_pure fun object mem => ?_
    rcases List.mem_append.1 mem with mem | mem
    · exact ⟨name, List.mem_cons_self, own object (Option.mem_toList.1 mem)⟩
    · obtain ⟨other, among, slot⟩ := otherOnes object mem
      exact ⟨other, List.mem_cons_of_mem _ among, slot⟩

/-- Creating an object unless it is there keeps the invariant. -/
theorem keeps_createOne {object : Object kind} (creates : allowed (.create kind object)) :
    (createOne object).Keeps around Inv fun _ => True := by
  refine (keeps_create guarded creates).attempt.bind fun result _ => ?_
  cases result with
  | ok object => exact keeps_pure trivial
  | error failure =>
    exact keeps_ite (fun _ => keeps_pure trivial) fun _ => keeps_throw

/-- So does creating several objects, one after the other. -/
theorem keeps_createAll {objects : List (Object kind)}
    (creates : ∀ object ∈ objects, allowed (.create kind object)) :
    (createAll objects).Keeps around Inv fun _ => True := by
  induction objects with
  | nil => exact keeps_pure trivial
  | cons object objects ih =>
    refine (keeps_createOne guarded (creates object List.mem_cons_self)).bind fun _ _ => ?_
    exact ih fun other mem => creates other (List.mem_cons_of_mem _ mem)

/-- Deleting an object unless it is gone keeps the invariant. -/
theorem keeps_deleteOne {grace : Option Nat} {object : Object kind}
    (deletes : allowed (.delete kind object.metadata.namespaceName object.name grace)) :
    (deleteOne grace object).Keeps around Inv fun _ => True := by
  refine (keeps_delete guarded deletes).attempt.bind fun result _ => ?_
  cases result with
  | ok _ => exact keeps_pure trivial
  | error failure =>
    exact keeps_ite (fun _ => keeps_pure trivial) fun _ => keeps_throw

/-- So does deleting several objects, one after the other. -/
theorem keeps_deleteAll {grace : Option Nat} {objects : List (Object kind)}
    (deletes : ∀ object ∈ objects,
      allowed (.delete kind object.metadata.namespaceName object.name grace)) :
    (deleteAll grace objects).Keeps around Inv fun _ => True := by
  induction objects with
  | nil => exact keeps_pure trivial
  | cons object objects ih =>
    refine (keeps_deleteOne guarded (deletes object List.mem_cons_self)).bind fun _ _ => ?_
    exact ih fun other mem => deletes other (List.mem_cons_of_mem _ mem)

/-- Replacing several objects, one after the other, keeps the invariant. -/
theorem keeps_replaceAll {objects : List (Object kind)}
    (replaces : ∀ object ∈ objects, allowed (.replace kind object)) :
    (replaceAll objects).Keeps around Inv fun _ => True := by
  induction objects with
  | nil => exact keeps_pure trivial
  | cons object objects ih =>
    refine (keeps_replace guarded (replaces object List.mem_cons_self)).bind fun _ _ => ?_
    exact ih fun other mem => replaces other (List.mem_cons_of_mem _ mem)

end

/-- Every command that merging an object into what is in its slot may take is allowed. -/
structure MayMerge (allowed : Command -> Prop) {kind : Kind} (desired : Object kind) : Prop where
  reads : allowed (.get kind desired.metadata.namespaceName desired.name)
  creates : allowed (.create kind desired.stamped)
  replaces : ∀ current merged : Object kind, slotOf current = slotOf desired ->
    current.mergeDesired desired = .ok merged -> allowed (.replace kind merged)

section

variable (guarded : Guarded around allowed Inv) {kind : Kind}

include guarded

/-- Merging an object keeps the invariant when all it may write is allowed. -/
theorem keeps_mergeOne {desired : Object kind} (may : MayMerge allowed desired) :
    (mergeOne desired).Keeps around Inv fun _ => True := by
  refine (keeps_getOptional guarded may.reads).bind fun found slot => ?_
  cases found with
  | none => exact keeps_createOne guarded may.creates
  | some current =>
    refine keeps_ite (fun _ => ?_) fun _ => keeps_pure trivial
    cases merging : current.mergeDesired desired with
    | error failure => exact keeps_throw
    | ok merged =>
      exact (keeps_replace guarded (may.replaces current merged (slot current rfl) merging)).bind
        fun _ _ => keeps_pure trivial

/-- So does merging several objects, one after the other. -/
theorem keeps_mergeAll {objects : List (Object kind)}
    (may : ∀ object ∈ objects, MayMerge allowed object) :
    (mergeAll objects).Keeps around Inv fun _ => True := by
  induction objects with
  | nil => exact keeps_pure trivial
  | cons object objects ih =>
    refine (keeps_mergeOne guarded (may object List.mem_cons_self)).bind fun _ _ => ?_
    exact ih fun other mem => may other (List.mem_cons_of_mem _ mem)

end

end Request

end GuestFleet
