import Mathlib.Data.List.Nodup
import GuestFleet.Change.Diff

/-!
# Differences as a partition

A difference sorts the keys of the current and the desired objects into those to create, those to
take away, those to write again and those to leave alone. Carried out on the current objects it
leaves the desired keys, and nothing to do for a second difference.
-/

namespace GuestFleet.Diff

open Kube (Key Kind Object)

variable {kind : Kind}

/-! ## Keys -/

/-- No two objects of the list have the same key. -/
def Distinct (objects : List (Object kind)) : Prop := (objects.map Object.key).Nodup

/-- Of distinct objects, two with one key are the same. -/
theorem Distinct.eq {objects : List (Object kind)} (distinct : Distinct objects)
    {first second : Object kind} (memFirst : first ∈ objects) (memSecond : second ∈ objects)
    (same : first.key = second.key) : first = second :=
  List.inj_on_of_nodup_map distinct memFirst memSecond same

/-- A part of distinct objects is distinct. -/
theorem Distinct.sublist {part objects : List (Object kind)} (distinct : Distinct objects)
    (isPart : part.Sublist objects) : Distinct part :=
  List.Nodup.sublist (isPart.map Object.key) distinct

/-- A list has a key if one of its objects has it. -/
theorem hasKey_iff {objects : List (Object kind)} {key : Key} :
    hasKey objects key = true <-> ∃ object ∈ objects, object.key = key := by
  simp [hasKey]

/-- A list has the keys of its objects. -/
theorem hasKey_of_mem {objects : List (Object kind)} {object : Object kind}
    (mem : object ∈ objects) : hasKey objects object.key = true :=
  hasKey_iff.2 ⟨object, mem, rfl⟩

/-- What is found under a key is an object of the list with that key. -/
theorem of_byKey {objects : List (Object kind)} {key : Key} {object : Object kind}
    (found : byKey objects key = some object) : object ∈ objects ∧ object.key = key := by
  have chosen := List.find?_some found
  exact ⟨List.mem_reverse.1 (List.mem_of_find?_eq_some found), of_decide_eq_true chosen⟩

/-- Nothing is found by a key that no object has. -/
theorem byKey_eq_none {objects : List (Object kind)} {key : Key} :
    byKey objects key = none <-> hasKey objects key = false := by
  simp [byKey, hasKey]

/-- Something is found by every key that some object has. -/
theorem exists_byKey {objects : List (Object kind)} {key : Key}
    (has : hasKey objects key = true) : ∃ object, byKey objects key = some object := by
  cases found : byKey objects key with
  | none => cases has.symm.trans (byKey_eq_none.1 found)
  | some object => exact ⟨object, rfl⟩

/-- Among objects with different keys each is found under its own. -/
theorem Distinct.byKey_eq {objects : List (Object kind)} (distinct : Distinct objects)
    {object : Object kind} (mem : object ∈ objects) : byKey objects object.key = some object := by
  obtain ⟨found, isFound⟩ := exists_byKey (hasKey_of_mem mem)
  obtain ⟨memFound, same⟩ := of_byKey isFound
  rw [isFound, distinct.eq memFound mem same]

/-! ## The parts of a difference -/

/-- The desired objects whose existing counterpart need not be written again. -/
def unchanged (current desired : List (Object kind)) : List (Object kind) :=
  desired.filter fun object =>
    match byKey current object.key with
    | some existing => !existing.isModified object
    | none => false

/-- What a difference makes of an object. -/
inductive Part where
  | created
  | obsolete
  | modified
  | unchanged
deriving DecidableEq, Repr

/-- The objects that a difference makes something of. -/
def Part.objects (current desired : List (Object kind)) : Part -> List (Object kind)
  | .created => Diff.created current desired
  | .obsolete => Diff.obsolete current desired
  | .modified => Diff.modified current desired
  | .unchanged => Diff.unchanged current desired

section

variable {current desired : List (Object kind)} {object : Object kind} {key : Key}

/-- What is to be created is wanted, in the order in which it is wanted. -/
theorem created_sublist : (created current desired).Sublist desired := List.filter_sublist

/-- What is obsolete is there now, in the order in which it is. -/
theorem obsolete_sublist : (obsolete current desired).Sublist current := List.filter_sublist

/-- What is to be updated is wanted, in the order in which it is wanted. -/
theorem modified_sublist : (modified current desired).Sublist desired := List.filter_sublist

/-- What stays as it is is wanted, in the order in which it is wanted. -/
theorem unchanged_sublist : (unchanged current desired).Sublist desired := List.filter_sublist

/-- What is to be created are the wanted objects whose keys no current object has. -/
theorem mem_created : object ∈ created current desired <->
    object ∈ desired ∧ hasKey current object.key = false := by
  simp [created]

/-- What is obsolete are the current objects whose keys no wanted object has. -/
theorem mem_obsolete : object ∈ obsolete current desired <->
    object ∈ current ∧ hasKey desired object.key = false := by
  simp [obsolete]

/-- What is to be updated are the wanted objects that the current one with their key differs from.
-/
theorem mem_modified : object ∈ modified current desired <->
    object ∈ desired ∧ ∃ existing, byKey current object.key = some existing ∧
      existing.isModified object = true := by
  rw [modified, List.mem_filter]
  cases byKey current object.key <;> simp

/-- What stays as it is are the wanted objects that the current one with their key does not differ
from. -/
theorem mem_unchanged : object ∈ unchanged current desired <->
    object ∈ desired ∧ ∃ existing, byKey current object.key = some existing ∧
      existing.isModified object = false := by
  rw [unchanged, List.mem_filter]
  cases byKey current object.key <;> simp

/-- The created keys are those that are desired and do not exist. -/
theorem hasKey_created : hasKey (created current desired) key = true <->
    hasKey current key = false ∧ hasKey desired key = true := by
  rw [hasKey_iff, hasKey_iff]
  constructor
  · rintro ⟨object, mem, rfl⟩
    obtain ⟨wanted, absent⟩ := mem_created.1 mem
    exact ⟨absent, object, wanted, rfl⟩
  · rintro ⟨absent, object, wanted, rfl⟩
    exact ⟨object, mem_created.2 ⟨wanted, absent⟩, rfl⟩

/-- The obsolete keys are those that exist and are not desired. -/
theorem hasKey_obsolete : hasKey (obsolete current desired) key = true <->
    hasKey current key = true ∧ hasKey desired key = false := by
  rw [hasKey_iff, hasKey_iff]
  constructor
  · rintro ⟨object, mem, rfl⟩
    obtain ⟨existing, unwanted⟩ := mem_obsolete.1 mem
    exact ⟨⟨object, existing, rfl⟩, unwanted⟩
  · rintro ⟨⟨object, existing, rfl⟩, unwanted⟩
    exact ⟨object, mem_obsolete.2 ⟨existing, unwanted⟩, rfl⟩

/-- A modified key exists and is desired. -/
theorem hasKey_of_modified (has : hasKey (modified current desired) key = true) :
    hasKey current key = true ∧ hasKey desired key = true := by
  obtain ⟨object, mem, rfl⟩ := hasKey_iff.1 has
  obtain ⟨wanted, existing, found, -⟩ := mem_modified.1 mem
  obtain ⟨memExisting, same⟩ := of_byKey found
  exact ⟨hasKey_iff.2 ⟨existing, memExisting, same⟩, hasKey_of_mem wanted⟩

/-- An unchanged key exists and is desired. -/
theorem hasKey_of_unchanged (has : hasKey (unchanged current desired) key = true) :
    hasKey current key = true ∧ hasKey desired key = true := by
  obtain ⟨object, mem, rfl⟩ := hasKey_iff.1 has
  obtain ⟨wanted, existing, found, -⟩ := mem_unchanged.1 mem
  obtain ⟨memExisting, same⟩ := of_byKey found
  exact ⟨hasKey_iff.2 ⟨existing, memExisting, same⟩, hasKey_of_mem wanted⟩

/-- No key is created and taken away, created and written again, or taken away and written again,
however often it occurs in the lists. -/
theorem change_unique {part other : Part} (isChange : part ≠ .unchanged)
    (isOther : other ≠ .unchanged) (has : hasKey (part.objects current desired) key = true)
    (hasOther : hasKey (other.objects current desired) key = true) : part = other := by
  -- Where a change is found tells whether the key exists and whether it is desired.
  have told {part : Part} (isChange : part ≠ .unchanged)
      (has : hasKey (part.objects current desired) key = true) :
      (hasKey current key = true <-> part ≠ .created) ∧
        (hasKey desired key = true <-> part ≠ .obsolete) := by
    cases part with
    | created => simpa using hasKey_created.1 has
    | obsolete => simpa using hasKey_obsolete.1 has
    | modified => simpa using hasKey_of_modified has
    | unchanged => exact absurd rfl isChange
  obtain ⟨exist, wanted⟩ := told isChange has
  obtain ⟨existOther, wantedOther⟩ := told isOther hasOther
  have sameExist := exist.symm.trans existOther
  have sameWanted := wanted.symm.trans wantedOther
  cases part <;> cases other <;> simp_all

/-- A key that exists and is desired is written again or left alone, and not both. -/
theorem modified_or_unchanged (distinct : Distinct desired) (exist : hasKey current key = true)
    (wanted : hasKey desired key = true) :
    hasKey (modified current desired) key = !hasKey (unchanged current desired) key := by
  obtain ⟨object, mem, rfl⟩ := hasKey_iff.1 wanted
  obtain ⟨existing, found⟩ := exists_byKey exist
  have only {part : List (Object kind)} (isPart : part.Sublist desired) :
      hasKey part object.key = true <-> object ∈ part := by
    constructor
    · intro has
      obtain ⟨other, memOther, same⟩ := hasKey_iff.1 has
      rwa [← distinct.eq (isPart.subset memOther) mem same]
    · exact hasKey_of_mem
  have again : hasKey (modified current desired) object.key = true <->
      existing.isModified object = true := by
    rw [only modified_sublist, mem_modified, found]
    simp [mem]
  have left : hasKey (unchanged current desired) object.key = true <->
      existing.isModified object = false := by
    rw [only unchanged_sublist, mem_unchanged, found]
    simp [mem]
  rw [Bool.eq_iff_iff, again, Bool.not_eq_true', ← Bool.not_eq_true, left, Bool.not_eq_false]

/-- Every key of the two lists is in one part of the difference and in no other. -/
theorem exists_unique_part (distinct : Distinct desired)
    (occurs : hasKey current key = true ∨ hasKey desired key = true) :
    ∃! part : Part, hasKey (part.objects current desired) key = true := by
  cases exist : hasKey current key with
  | false =>
    have wanted : hasKey desired key = true := by simpa [exist] using occurs
    refine ⟨.created, hasKey_created.2 ⟨exist, wanted⟩, fun part has => ?_⟩
    cases part with
    | created => rfl
    | obsolete => cases exist.symm.trans (hasKey_obsolete.1 has).1
    | modified => cases exist.symm.trans (hasKey_of_modified has).1
    | unchanged => cases exist.symm.trans (hasKey_of_unchanged has).1
  | true =>
    cases wanted : hasKey desired key with
    | false =>
      refine ⟨.obsolete, hasKey_obsolete.2 ⟨exist, wanted⟩, fun part has => ?_⟩
      cases part with
      | created => cases wanted.symm.trans (hasKey_created.1 has).2
      | obsolete => rfl
      | modified => cases wanted.symm.trans (hasKey_of_modified has).2
      | unchanged => cases wanted.symm.trans (hasKey_of_unchanged has).2
    | true =>
      have split := modified_or_unchanged distinct exist wanted
      have notCreated : hasKey (created current desired) key ≠ true :=
        fun has => by cases exist.symm.trans (hasKey_created.1 has).1
      have notObsolete : hasKey (obsolete current desired) key ≠ true :=
        fun has => by cases wanted.symm.trans (hasKey_obsolete.1 has).2
      cases left : hasKey (unchanged current desired) key with
      | true =>
        rw [left] at split
        refine ⟨.unchanged, left, fun part has => ?_⟩
        cases part with
        | created => exact absurd has notCreated
        | obsolete => exact absurd has notObsolete
        | modified => cases split.symm.trans has
        | unchanged => rfl
      | false =>
        rw [left] at split
        refine ⟨.modified, split, fun part has => ?_⟩
        cases part with
        | created => exact absurd has notCreated
        | obsolete => exact absurd has notObsolete
        | modified => rfl
        | unchanged => cases left.symm.trans has

end

/-! ## Differences that are carried out -/

/-- The current objects without the obsolete ones, with the modified ones written again, and with
the created ones. -/
def carriedOut (current desired : List (Object kind)) : List (Object kind) :=
  ((current.filter fun object => !hasKey (obsolete current desired) object.key).map fun object =>
    (byKey (modified current desired) object.key).getD object) ++ created current desired

section

variable {current desired : List (Object kind)}

/-- What is written again has the key of what was there. -/
theorem key_written_again (object : Object kind) :
    ((byKey (modified current desired) object.key).getD object).key = object.key := by
  cases found : byKey (modified current desired) object.key with
  | none => rfl
  | some other => exact (of_byKey found).2

/-- The keys that a difference leaves: those of what stays, and those of what is created. -/
theorem keys_carriedOut : (carriedOut current desired).map Object.key =
    (current.filter fun object => !hasKey (obsolete current desired) object.key).map Object.key ++
      (created current desired).map Object.key := by
  rw [carriedOut, List.map_append, List.map_map]
  exact congrArg (· ++ _) (List.map_congr_left fun object _ => key_written_again object)

/-- What stays is desired. -/
theorem mem_staying {object : Object kind} :
    (object ∈ current.filter fun object => !hasKey (obsolete current desired) object.key) <->
      object ∈ current ∧ hasKey desired object.key = true := by
  rw [List.mem_filter, Bool.not_eq_true']
  refine and_congr_right fun mem => ?_
  rw [← Bool.not_eq_true, hasKey_obsolete, not_and, Bool.not_eq_false]
  exact ⟨fun kept => kept (hasKey_of_mem mem), fun wanted _ => wanted⟩

/-- Carried out, a difference leaves each desired key once. -/
theorem keys_carriedOut_perm (distinctCurrent : Distinct current) (distinct : Distinct desired) :
    ((carriedOut current desired).map Object.key).Perm (desired.map Object.key) := by
  have nodup : ((carriedOut current desired).map Object.key).Nodup := by
    rw [keys_carriedOut, List.nodup_append']
    refine ⟨distinctCurrent.sublist List.filter_sublist, distinct.sublist created_sublist, ?_⟩
    intro key stays isCreated
    obtain ⟨old, memOld, rfl⟩ := List.mem_map.1 stays
    obtain ⟨new, memNew, same⟩ := List.mem_map.1 isCreated
    obtain ⟨-, absent⟩ := mem_created.1 memNew
    rw [same] at absent
    cases absent.symm.trans (hasKey_of_mem (mem_staying.1 memOld).1)
  refine (List.perm_ext_iff_of_nodup nodup distinct).2 fun key => ?_
  rw [keys_carriedOut, List.mem_append, List.mem_map, List.mem_map, List.mem_map]
  constructor
  · rintro (⟨object, mem, rfl⟩ | ⟨object, mem, rfl⟩)
    · exact hasKey_iff.1 (mem_staying.1 mem).2
    · exact ⟨object, (mem_created.1 mem).1, rfl⟩
  · rintro ⟨object, mem, rfl⟩
    cases exist : hasKey current object.key with
    | false => exact .inr ⟨object, mem_created.2 ⟨mem, exist⟩, rfl⟩
    | true =>
      obtain ⟨old, memOld, same⟩ := hasKey_iff.1 exist
      exact .inl ⟨old, mem_staying.2 ⟨memOld, by rw [same]; exact hasKey_of_mem mem⟩, same⟩

/-- What a difference leaves under a desired key need not be written again. -/
theorem settled_of_carriedOut (distinctCurrent : Distinct current) (distinct : Distinct desired)
    (stable : ∀ object ∈ desired, object.isModified object = false) {left wanted : Object kind}
    (mem : left ∈ carriedOut current desired) (memWanted : wanted ∈ desired)
    (same : left.key = wanted.key) : left.isModified wanted = false := by
  rcases List.mem_append.1 mem with mem | mem
  · obtain ⟨old, memOld, rfl⟩ := List.mem_map.1 mem
    rw [key_written_again] at same
    have found : byKey current wanted.key = some old := by
      rw [← same]
      exact distinctCurrent.byKey_eq (mem_staying.1 memOld).1
    cases again : byKey (modified current desired) old.key with
    | some other =>
      obtain ⟨memOther, sameOther⟩ := of_byKey again
      have equal := distinct.eq (mem_modified.1 memOther).1 memWanted (sameOther.trans same)
      rw [Option.getD_some, equal]
      exact stable wanted memWanted
    | none =>
      rw [Option.getD_none, ← Bool.not_eq_true]
      intro differs
      have rewritten := hasKey_of_mem (mem_modified.2 ⟨memWanted, old, found, differs⟩)
      rw [← same] at rewritten
      cases rewritten.symm.trans (byKey_eq_none.1 again)
  · have equal := distinct.eq (mem_created.1 mem).1 memWanted same
    rw [equal]
    exact stable wanted memWanted

/-- A second difference finds nothing to do. -/
theorem nothing_after_carriedOut (distinctCurrent : Distinct current)
    (distinct : Distinct desired)
    (stable : ∀ object ∈ desired, object.isModified object = false) :
    created (carriedOut current desired) desired = [] ∧
      obsolete (carriedOut current desired) desired = [] ∧
      modified (carriedOut current desired) desired = [] := by
  have keys := keys_carriedOut_perm distinctCurrent distinct
  refine ⟨?_, ?_, ?_⟩
  · refine List.eq_nil_iff_forall_not_mem.2 fun object mem => ?_
    obtain ⟨wanted, absent⟩ := mem_created.1 mem
    obtain ⟨left, memLeft, same⟩ :=
      List.mem_map.1 (keys.mem_iff.2 (List.mem_map_of_mem (f := Object.key) wanted))
    cases absent.symm.trans (hasKey_iff.2 ⟨left, memLeft, same⟩)
  · refine List.eq_nil_iff_forall_not_mem.2 fun object mem => ?_
    obtain ⟨left, unwanted⟩ := mem_obsolete.1 mem
    obtain ⟨wanted, memWanted, same⟩ :=
      List.mem_map.1 (keys.mem_iff.1 (List.mem_map_of_mem (f := Object.key) left))
    cases unwanted.symm.trans (hasKey_iff.2 ⟨wanted, memWanted, same⟩)
  · refine List.eq_nil_iff_forall_not_mem.2 fun object mem => ?_
    obtain ⟨wanted, left, found, differs⟩ := mem_modified.1 mem
    obtain ⟨memLeft, same⟩ := of_byKey found
    cases differs.symm.trans
      (settled_of_carriedOut distinctCurrent distinct stable memLeft wanted same)

end

/-! ## The law of differences -/

/-- A difference never makes two things of one key. Between lists without repeated keys it makes
one thing of each key, in the order of the lists; and when it has been carried out, just the desired
keys are there, and a second difference makes nothing of them, if no desired object is modified
against itself. -/
theorem parts_law (current desired : List (Object kind)) :
    (∀ key (part other : Part), part ≠ .unchanged -> other ≠ .unchanged ->
      hasKey (part.objects current desired) key = true ->
      hasKey (other.objects current desired) key = true -> part = other) ∧
    (created current desired).Sublist desired ∧ (modified current desired).Sublist desired ∧
    (obsolete current desired).Sublist current ∧
    (Distinct current -> Distinct desired ->
      (∀ key, hasKey current key = true ∨ hasKey desired key = true ->
        ∃! part : Part, hasKey (part.objects current desired) key = true) ∧
      ((carriedOut current desired).map Object.key).Perm (desired.map Object.key) ∧
      ((∀ object ∈ desired, object.isModified object = false) ->
        created (carriedOut current desired) desired = [] ∧
        obsolete (carriedOut current desired) desired = [] ∧
        modified (carriedOut current desired) desired = [])) := by
  refine ⟨fun key part other isChange isOther has hasOther => ?_, created_sublist,
    modified_sublist, obsolete_sublist, fun distinctCurrent distinct => ⟨?_, ?_, ?_⟩⟩
  · exact change_unique isChange isOther has hasOther
  · exact fun key occurs => exists_unique_part distinct occurs
  · exact keys_carriedOut_perm distinctCurrent distinct
  · exact fun stable => nothing_after_carriedOut distinctCurrent distinct stable

/-- A config map with one entry. -/
def configMap (name value : String) : Object .configMap :=
  ⟨{ name := some name }, { data := some [("key", value)] }⟩

/-- Config maps of which one is left alone, one is written again, one is taken away and one is
created: of each key one thing is made, and nothing the second time. -/
theorem parts_of_configMaps :
    let current := [configMap "gone" "1", configMap "same" "1", configMap "other" "1"]
    let desired := [configMap "other" "2", configMap "same" "1", configMap "new" "1"]
    (created current desired = [configMap "new" "1"] ∧
      obsolete current desired = [configMap "gone" "1"] ∧
      modified current desired = [configMap "other" "2"]) ∧
    (∃! part : Part, hasKey (part.objects current desired) (configMap "same" "1").key = true) ∧
    created (carriedOut current desired) desired = [] ∧
    obsolete (carriedOut current desired) desired = [] ∧
    modified (carriedOut current desired) desired = [] := by
  intro current desired
  have distinctCurrent : Distinct current := by unfold Distinct; decide
  have distinct : Distinct desired := by unfold Distinct; decide
  have stable : ∀ object ∈ desired, object.isModified object = false := by decide
  obtain ⟨-, -, -, -, law⟩ := parts_law current desired
  obtain ⟨unique, -, nothing⟩ := law distinctCurrent distinct
  exact ⟨by decide, unique _ (.inl (by decide)), nothing stable⟩

end GuestFleet.Diff
