import GuestFleet.Proofs.Store.Guards
import GuestFleet.Proofs.Store.Views
import GuestFleet.Store.Changes

/-!
# What commands do to all collections

Every command leaves every collection as it was, up to calls and failures to come, but for
one write or one removal in the collection of its own kind; and it adds at most one call to
the log, which names what the command was about. So no command brings failures, and what holds
where all that may fail is awaited holds of every run in a storm.
-/

namespace GuestFleet.Store

open Kube (Kind Object)

/-- Every collection is sound. -/
def Collections.Sound (all : Collections) : Prop := ∀ kind, (all.get kind).Sound

/-- What a command may have made of the collection of a kind. -/
def Command.Effect (command : Command) {kind : Kind} (c d : Collection kind) : Prop :=
  c.Alike d ∨
    (∃ object, (command = .create kind object ∨ command = .replace kind object) ∧
      (c.insert object).Alike d) ∨
    ∃ space name grace, command = .delete kind space name grace ∧
      (c.erase (.make space name)).Alike d

/-- A call in the log is that of a command. -/
def Call.IsOf (call : Call) : Command -> Prop
  | .get kind space name =>
    call.operation = .get ∧ call.kind = kind ∧ call.space = space ∧ call.name = name
  | .list kind space selector =>
    call.operation = .list ∧ call.kind = kind ∧ call.space = space ∧ call.name = selector
  | .create kind object =>
    call.operation = .create ∧ call.kind = kind ∧ call.space = object.metadata.namespaceName ∧
      call.name = object.name
  | .replace kind object =>
    call.operation = .replace ∧ call.kind = kind ∧ call.space = object.metadata.namespaceName ∧
      call.name = object.name
  | .delete kind space name _ =>
    call.operation = .delete ∧ call.kind = kind ∧ call.space = space ∧ call.name = name
  | _ => False

section

variable (world : World) (operation : Operation) (kind : Kind) (space : Option String)
  (name : String) (grace : Option Nat) (size : α -> Option Nat)
  (change : Collection kind -> Except Failure α × Collection kind)

/-- A call is answered by the collection of its kind. -/
theorem World.call_reply :
    (world.call operation kind space name grace size change).1 =
      (change (world.collections.get kind)).1 := rfl

/-- A call changes the collection of its kind alone. -/
theorem World.call_collections :
    (world.call operation kind space name grace size change).2.collections =
      world.collections.set kind (change (world.collections.get kind)).2 := rfl

/-- A call is logged with its result. -/
theorem World.call_log :
    (world.call operation kind space name grace size change).2.log =
      ⟨operation, kind, space, name,
        (world.call operation kind space name grace size change).1.map size, grace⟩ ::
          world.log := rfl

end

/-- Writing an object changes the collection of its kind alone. -/
theorem World.collections_insert (world : World) {kind : Kind} (object : Object kind) :
    (world.insert object).collections =
      world.collections.set kind ((world.collections.get kind).insert object) := rfl

/-- Writing an object orders no failures. -/
theorem World.faults_insert (world : World) {kind : Kind} (object : Object kind) (other : Kind) :
    ((world.insert object).collections.get other).faults =
      (world.collections.get other).faults := by
  rw [collections_insert]
  by_cases same : other = kind
  · subst same
    rw [Collections.get_set]
    rfl
  · rw [Collections.get_set_of_ne _ _ same]

/-- A pause is seen by the clock alone. -/
theorem World.ledger_pause (world : World) (span : Time.Span) :
    (World.answer (.pause span) world).2.ledger = world.ledger :=
  View.ledger.clock_unseen world _ _

/-- A pause changes no collection. -/
theorem World.collections_pause (world : World) (span : Time.Span) :
    (World.answer (.pause span) world).2.collections = world.collections :=
  congrArg Ledger.collections (World.ledger_pause world span)

section

variable {command : Command}

/-- The collection of one kind takes the effect, and the others stay as they are. -/
theorem effect_set (all : Collections) {kind : Kind} {c : Collection kind}
    (effect : Command.Effect command (all.get kind) c) (other : Kind) :
    Command.Effect command (all.get other) ((all.set kind c).get other) := by
  by_cases same : other = kind
  · subst same
    rw [Collections.get_set]
    exact effect
  · rw [Collections.get_set_of_ne all c same]
    exact .inl Collection.Alike.refl

/-- A call has the effect of its change on the collection of its kind. -/
theorem effect_call {kind : Kind} {world : World} {operation : Operation}
    {space : Option String} {name : String} {grace : Option Nat} {size : α -> Option Nat}
    {change : Collection kind -> Except Failure α × Collection kind}
    (effect : Command.Effect command (world.collections.get kind)
      (change (world.collections.get kind)).2) (other : Kind) :
    Command.Effect command (world.collections.get other)
      ((world.call operation kind space name grace size change).2.collections.get other) := by
  rw [World.call_collections]
  exact effect_set world.collections effect other

/-- What a command may do to each collection. -/
theorem answer_effect (command : Command) (world : World) (kind : Kind) :
    Command.Effect command (world.collections.get kind)
      ((World.answer command world).2.collections.get kind) := by
  cases command with
  | get own space name =>
    rw [World.answer]
    exact effect_call (.inl (Collection.get_alike _ _)) kind
  | list own space selector =>
    rw [World.answer]
    exact effect_call (.inl (Collection.list_alike _ _ _)) kind
  | create own object =>
    rw [World.answer]
    refine effect_call ((Collection.create_effect _ object).imp id fun written => ?_) kind
    exact .inl ⟨object, .inl rfl, written⟩
  | replace own object =>
    rw [World.answer]
    refine effect_call ((Collection.replace_effect _ object).imp id fun written => ?_) kind
    exact .inl ⟨object, .inr rfl, written⟩
  | delete own space name grace =>
    rw [World.answer]
    refine effect_call ((Collection.delete_effect _ _ grace).imp id fun erased => ?_) kind
    exact .inr ⟨space, name, grace, rfl, erased⟩
  | patchCluster space name patch => exact .inl Collection.Alike.refl
  | now => exact .inl Collection.Alike.refl
  | pause span =>
    rw [World.collections_pause]
    exact .inl Collection.Alike.refl
  | record event => exact .inl Collection.Alike.refl

/-- A call orders no failures when the change of its collection orders none. -/
theorem faults_of_call {kind : Kind} {world : World} {operation : Operation}
    {space : Option String} {name : String} {grace : Option Nat} {size : α -> Option Nat}
    {change : Collection kind -> Except Failure α × Collection kind}
    (fewer : (change (world.collections.get kind)).2.faults ⊆ (world.collections.get kind).faults)
    (other : Kind) :
    ((world.call operation kind space name grace size change).2.collections.get other).faults ⊆
      (world.collections.get other).faults := by
  rw [World.call_collections]
  by_cases same : other = kind
  · subst same
    rw [Collections.get_set]
    exact fewer
  · rw [Collections.get_set_of_ne _ _ same]
    exact List.Subset.refl _

/-- No command orders failures. -/
theorem answer_faults (command : Command) (world : World) (kind : Kind) :
    ((World.answer command world).2.collections.get kind).faults ⊆
      (world.collections.get kind).faults := by
  cases command with
  | get own space name =>
    rw [World.answer]
    exact faults_of_call (Collection.faults_get _ _) kind
  | list own space selector =>
    rw [World.answer]
    exact faults_of_call (Collection.faults_list _ _ _) kind
  | create own object =>
    rw [World.answer]
    exact faults_of_call (Collection.faults_create _ object) kind
  | replace own object =>
    rw [World.answer]
    exact faults_of_call (Collection.faults_replace _ object) kind
  | delete own space name grace =>
    rw [World.answer]
    exact faults_of_call (Collection.faults_delete _ _ grace) kind
  | patchCluster space name patch => exact List.Subset.refl _
  | now => exact List.Subset.refl _
  | pause span =>
    rw [World.collections_pause]
    exact List.Subset.refl _
  | record event => exact List.Subset.refl _

/-- A command adds its own call to the log, or none. -/
theorem answer_log (command : Command) (world : World) :
    (World.answer command world).2.log = world.log ∨
      ∃ call : Call, call.IsOf command ∧
        (World.answer command world).2.log = call :: world.log := by
  cases command with
  | get kind space name =>
    rw [World.answer, World.call_log]
    exact .inr ⟨_, ⟨rfl, rfl, rfl, rfl⟩, rfl⟩
  | list kind space selector =>
    rw [World.answer, World.call_log]
    exact .inr ⟨_, ⟨rfl, rfl, rfl, rfl⟩, rfl⟩
  | create kind object =>
    rw [World.answer, World.call_log]
    exact .inr ⟨_, ⟨rfl, rfl, rfl, rfl⟩, rfl⟩
  | replace kind object =>
    rw [World.answer, World.call_log]
    exact .inr ⟨_, ⟨rfl, rfl, rfl, rfl⟩, rfl⟩
  | delete kind space name grace =>
    rw [World.answer, World.call_log]
    exact .inr ⟨_, ⟨rfl, rfl, rfl, rfl⟩, rfl⟩
  | patchCluster space name patch => exact .inl rfl
  | now => exact .inl rfl
  | pause span => exact .inl (congrArg Ledger.log (World.ledger_pause world span))
  | record event => exact .inl rfl

/-- Sound collections answer with what they were asked for. -/
theorem answer_fits (command : Command) {world : World} (sound : world.collections.Sound) :
    command.Fits (World.answer command world).1 := by
  cases command with
  | get kind space name =>
    rw [World.answer, World.call_reply]
    rcases (world.collections.get kind).get_cases (.make space name) with
      ⟨fault, others, -, eq⟩ | ⟨-, ⟨object, stored, eq⟩ | ⟨-, eq⟩⟩
    · rw [eq]
      trivial
    · rw [eq]
      exact (sound kind).slotOf_stored stored
    · rw [eq]
      trivial
  | list kind space selector =>
    rw [World.answer, World.call_reply]
    rcases (world.collections.get kind).list_cases space selector with
      ⟨fault, others, -, eq⟩ | ⟨-, eq⟩
    · rw [eq]
      trivial
    · rw [eq]
      intro object mem
      exact ((sound kind).mem_selected.1 mem).2.1
  | create kind object => trivial
  | replace kind object => trivial
  | delete kind space name grace => trivial
  | patchCluster space name patch => trivial
  | now => trivial
  | pause span => trivial
  | record event => trivial

/-- A list holds what is stored in the slots of the namespace and is selected. -/
theorem stored_of_listed {world : World} (sound : world.collections.Sound) {kind : Kind}
    {space : Option String} {selector : String} {objects : List (Object kind)}
    (listed : (World.answer (.list kind space selector) world).1 = .ok objects)
    {object : Object kind} (mem : object ∈ objects) :
    (world.collections.get kind).stored (slotOf object) = some object ∧
      space.all (· == (slotOf object).space) = true ∧
        Kube.Selector.selects selector object.metadata.labels = true := by
  rw [World.answer, World.call_reply] at listed
  rcases (world.collections.get kind).list_cases space selector with
    ⟨fault, others, -, eq⟩ | ⟨-, eq⟩
  · rw [eq] at listed
    cases listed
  · rw [eq] at listed
    rw [← Except.ok.inj listed] at mem
    exact (sound kind).mem_selected.1 mem

/-- No command makes a sound collection unsound. -/
theorem Command.Effect.sound {kind : Kind} {c d : Collection kind}
    (effect : Command.Effect command c d) (sound : c.Sound) : d.Sound := by
  rcases effect with alike | ⟨object, -, alike⟩ | ⟨space, name, grace, -, alike⟩
  · exact alike.sound sound
  · exact alike.sound (sound.insert object)
  · exact alike.sound (sound.erase _)

end

/-! ## Runs -/

/-- Orders of failures are no calls. -/
theorem World.log_ordering (world : World) (orders : List Order) :
    (world.ordering orders).log = world.log := by
  induction orders generalizing world with
  | nil => rfl
  | cons order orders ih => exact ih _

/-- The log only grows. -/
theorem log_runAmid (world : World) (storm : Storm) (program : Program α) :
    ∃ new, (world.runAmid storm program).2.log = new ++ world.log := by
  induction program generalizing world storm with
  | done value => exact ⟨[], rfl⟩
  | step command next ih =>
    let ordered := world.ordering (storm.headD [])
    obtain ⟨late, grown⟩ := ih (World.answer command ordered).1 (World.answer command ordered).2
      storm.tail
    rw [← world.log_ordering (storm.headD [])]
    rcases answer_log command ordered with same | ⟨call, -, one⟩
    · exact ⟨late, grown.trans (by rw [same])⟩
    · exact ⟨late ++ [call], grown.trans (by rw [one, List.append_assoc]; rfl)⟩

/-- The log only grows, also when nobody interferes. -/
theorem log_run (world : World) (program : Program α) :
    ∃ new, (world.run program).2.log = new ++ world.log := by
  rw [← world.runAmid_nil]
  exact log_runAmid world [] program

/-- The calls that a ledger has gained. -/
theorem callsSince_eq {world earlier : World} {new : List Call}
    (grown : world.log = new ++ earlier.log) : world.callsSince earlier = new.reverse := by
  rw [World.callsSince, grown, List.length_append, Nat.add_sub_cancel, List.take_left]

/-- Whether collections are sound does not depend on what is awaited. -/
theorem Collections.sound_awaiting {world : World} {hazards : Kind -> List Fault} :
    (world.awaiting hazards).collections.Sound <-> world.collections.Sound := by
  constructor
  · intro sound kind
    have here := sound kind
    rw [World.get_awaiting] at here
    exact here.congr rfl rfl
  · intro sound kind
    rw [World.get_awaiting]
    exact (sound kind).congr rfl rfl

/-- No program makes sound collections unsound. -/
theorem Collections.Sound.run {world : World} (sound : world.collections.Sound)
    (program : Program α) : (world.run program).2.collections.Sound := by
  induction program generalizing world with
  | done value => exact sound
  | step command next ih =>
    exact ih _ fun kind => (answer_effect command world kind).sound (sound kind)

/-- No command brings failures that were not to come. -/
theorem World.Faces.answer {world : World} {hazards : Kind -> List Fault}
    (faces : world.Faces hazards) (command : Command) :
    (World.answer command world).2.Faces hazards :=
  fun kind => List.Subset.trans (answer_faults command world kind) (faces kind)

section

variable {stormy : Stormy} {hazards : Kind -> List Fault} (faces : stormy.world.Faces hazards)
  (brought : ∀ kind, stormy.storm.faults ⊆ hazards kind)

include brought in
/-- What is ordered first and what is ordered later may all come. -/
theorem Stormy.brought_cases :
    (∀ order ∈ stormy.storm.headD [], ∀ kind, order.fault ∈ hazards kind) ∧
      ∀ kind, Storm.faults stormy.storm.tail ⊆ hazards kind := by
  obtain ⟨world, storm⟩ := stormy
  cases storm with
  | nil => exact ⟨fun _ mem => absurd mem List.not_mem_nil, brought⟩
  | cons orders storm =>
    have all (kind : Kind) : orders.map Order.fault ++ Storm.faults storm ⊆ hazards kind := by
      have whole := brought kind
      rwa [Storm.faults, List.flatten_cons, List.map_append] at whole
    refine ⟨fun order mem kind => ?_, fun kind => ?_⟩
    · exact all kind (List.mem_append_left _ (List.mem_map_of_mem mem))
    · exact List.Subset.trans (List.subset_append_right _ _) (all kind)

include faces brought

/-- Whatever was awaited before a command in a storm, nothing but what may fail is awaited after
it. -/
theorem Stormy.faces_answer (command : Command) :
    (Stormy.answer command stormy).2.world.Faces hazards :=
  (faces.ordering (Stormy.brought_cases brought).1).answer command

/-- At the end of a run in a storm nothing is awaited but what may fail. -/
theorem Stormy.faces_run (program : Program α) :
    (program.run Stormy.answer stormy).2.world.Faces hazards := by
  induction program generalizing stormy with
  | done value => exact faces
  | step command next ih =>
    exact ih _ (Stormy.faces_answer faces brought command) (Stormy.brought_cases brought).2

/-- What holds at the end of a program in a view, where all that may fail is awaited, holds at the
end of every run in a storm that brings nothing else. -/
theorem Stormy.run_of_ends {σ : Type} (view : View σ) {program : Program α} {post : α -> σ -> Prop}
    (ends : program.Ends view.around (view.see (stormy.world.awaiting hazards)) post) :
    post (program.run Stormy.answer stormy).1
      (view.see ((program.run Stormy.answer stormy).2.world.awaiting hazards)) := by
  induction program generalizing stormy with
  | done value => exact ends
  | step command next ih =>
    have within := Stormy.brought_cases brought
    refine ih _ (Stormy.faces_answer faces brought command) within.2 (ends _ _ ?_)
    refine ⟨stormy.world.ordering (stormy.storm.headD []), hazards, faces.ordering within.1, ?_,
      rfl, rfl⟩
    rw [World.awaiting_ordering]

end

/-- What a storm brings may fail. -/
theorem World.faults_hazards (world : World) (storm : Storm) (kind : Kind) :
    storm.faults ⊆ world.hazards storm kind := List.subset_append_right _ _

/-- At the end of a run nothing is awaited but what was awaited or was brought by the storm. -/
theorem World.faces_runAmid (world : World) (storm : Storm) (program : Program α) :
    (world.runAmid storm program).2.Faces (world.hazards storm) :=
  Stormy.faces_run (world.faces_hazards storm) (world.faults_hazards storm) program

/-- After a run in a storm that may pass nothing is awaited but failures that may pass. -/
theorem World.passing_runAmid {world : World}
    (passing : ∀ kind, ∀ fault ∈ (world.collections.get kind).faults, fault.Passes) {storm : Storm}
    (passes : storm.Passes) (program : Program α) :
    ∀ kind, ∀ fault ∈ ((world.runAmid storm program).2.collections.get kind).faults,
      fault.Passes := by
  intro kind fault mem
  rcases List.mem_append.1 (world.faces_runAmid storm program kind mem) with mem | mem
  · exact passing kind fault mem
  · exact passes fault mem

namespace View

variable {σ : Type} (view : View σ)

/-- What holds at the end of a program in a view holds of every run in a storm. -/
theorem amid_of_ends {program : Program α} {world : World} {storm : Storm}
    {post : α -> σ -> Prop} (ends : program.Ends view.around (view.see (world.amid storm)) post) :
    post (world.runAmid storm program).1
      (view.see ((world.runAmid storm program).2.awaiting (world.hazards storm))) :=
  Stormy.run_of_ends (world.faces_hazards storm) (world.faults_hazards storm) view ends

/-- What holds at the end of a request that ended well in a storm. -/
theorem amid_ok_of_ends {request : Request α} {world : World} {storm : Storm}
    {ok : α -> σ -> Prop} {fail : Failure -> σ -> Prop}
    (ends : request.Ends view.around (view.see (world.amid storm)) ok fail) {value : α}
    (ended : (world.runAmid storm request.run).1 = .ok value) :
    ok value
      (view.see ((world.runAmid storm request.run).2.awaiting (world.hazards storm))) := by
  have atEnd := view.amid_of_ends ends
  rw [ended] at atEnd
  exact atEnd

section

variable {world : World} (unfailing : ∀ kind, (world.collections.get kind).faults = [])

include unfailing

/-- What holds at the end of a program in a view holds of a run where nothing fails. -/
theorem run_of_ends {program : Program α} {post : α -> σ -> Prop}
    (ends : program.Ends view.around (view.see world) post) :
    post (world.run program).1 (view.see (world.run program).2) := by
  have none : world.hazards [] = fun _ => [] := funext fun kind => by
    rw [World.hazards, unfailing kind]
    rfl
  rw [← world.amid_nil] at ends
  have atEnd := view.amid_of_ends ends
  have faces := world.faces_runAmid [] program
  rw [none, World.runAmid_nil] at atEnd faces
  rwa [World.awaiting_none faces] at atEnd

/-- What holds at the end of a request that ended well where nothing fails. -/
theorem ok_of_ends {request : Request α} {ok : α -> σ -> Prop} {fail : Failure -> σ -> Prop}
    (ends : request.Ends view.around (view.see world) ok fail) {value : α}
    (ended : (world.run request.run).1 = .ok value) :
    ok value (view.see (world.run request.run).2) := by
  have atEnd := view.run_of_ends unfailing ends
  rw [ended] at atEnd
  exact atEnd

end

end View

end GuestFleet.Store

namespace GuestFleet

/-- What a part of a pass reaches of a part of a view. -/
theorem Work.reaches_of_part {σ τ : Type} {view : Store.View σ} {f : σ -> τ}
    {work : Work Program Unit} {rest onward : Context -> τ -> Prop} {context : Context} {state : σ}
    (reaches : work.Reaches (view.part f).around rest onward context (f state)) :
    work.Reaches view.around (fun context state => rest context (f state))
      (fun context state => onward context (f state)) context state := by
  refine Program.Ends.mono (Store.View.ends_of_part reaches) ?_
  rintro ⟨result, context⟩ after ended
  cases result with
  | ok value => exact ended
  | error failure => exact ended

/-- A run of a part of a pass in a storm ends well where it is to go on, or at rest. -/
theorem Work.amid_of_reaches {σ : Type} (view : Store.View σ) {work : Work Program Unit}
    {rest onward : Context -> σ -> Prop} {context : Context} {world : Store.World}
    {storm : Store.Storm}
    (reaches : work.Reaches view.around rest onward context (view.see (world.amid storm))) :
    let ended := world.runAmid storm (work.run.run context)
    let seen := view.see (ended.2.awaiting (world.hazards storm))
    (ended.1.1 = .ok () ∧ onward ended.1.2 seen) ∨ rest ended.1.2 seen := by
  intro ended seen
  have atEnd := view.amid_of_ends reaches
  cases result : ended.1.1 with
  | error failure =>
    rw [result] at atEnd
    exact .inr atEnd
  | ok value =>
    rw [result] at atEnd
    cases stopped : ended.1.2.cancelled with
    | true => exact .inr ((landed_rest stopped).1 atEnd)
    | false => exact .inl ⟨rfl, (landed_onward stopped).1 atEnd⟩

/-- A run of a part of a pass ends well where it is to go on, or at rest. -/
theorem Work.run_of_reaches {σ : Type} (view : Store.View σ) {work : Work Program Unit}
    {rest onward : Context -> σ -> Prop} {context : Context} {world : Store.World}
    (reaches : work.Reaches view.around rest onward context (view.see world)) :
    let ended := world.run (work.run.run context)
    let seen := view.see (ended.2.awaiting (world.hazards []))
    (ended.1.1 = .ok () ∧ onward ended.1.2 seen) ∨ rest ended.1.2 seen := by
  rw [← world.amid_nil] at reaches
  rw [← world.runAmid_nil]
  exact Work.amid_of_reaches view reaches

/-- What a request keeps of a ledger is kept by every run of it that nobody interferes with. -/
theorem Request.Keeps.run {Inv : Store.Ledger -> Prop} {request : Request α} {post : α -> Prop}
    (keeps : request.Keeps Store.View.ledger.alone Inv post) {world : Store.World}
    (holds : Inv world.ledger) : Inv (world.run request.run).2.ledger := by
  have ended := Store.View.ledger.run_of_ends_alone (keeps world.ledger holds)
  exact Either.elim ended (fun _ kept => kept.1) fun _ kept => kept

/-- What a request keeps of a ledger while failures are ordered is kept by every run in a storm. -/
theorem Request.Keeps.amid {Inv : Store.Ledger -> Prop} {request : Request α} {post : α -> Prop}
    (keeps : request.Keeps Store.View.ledger.around Inv post) {world : Store.World}
    {storm : Store.Storm} (holds : Inv (world.amid storm).ledger) :
    Inv ((world.runAmid storm request.run).2.awaiting (world.hazards storm)).ledger := by
  have ended := Store.View.ledger.amid_of_ends (keeps _ holds)
  exact Either.elim ended (fun _ kept => kept.1) fun _ kept => kept

end GuestFleet
