import GuestFleet.Json.Parser
import GuestFleet.Proofs.Json.MergePatch

/-!
# What is read from a text

Every value that is read from a text lists the members of its objects in key order, in
whatever order they stand in the text: members are inserted one by one.
-/

namespace GuestFleet.Json

/-- An inserted member keeps its value, and the other members theirs. -/
theorem OrderedMembers.insert {members : Members} (ordered : OrderedMembers members)
    (key : String) {value : Json} (orderedValue : Ordered value) :
    OrderedMembers (Members.insert key value members) := by
  induction members with
  | nil => exact ⟨orderedValue, trivial⟩
  | cons head rest ih =>
    obtain ⟨k, v⟩ := head
    rw [OrderedMembers] at ordered
    rw [Members.insert]
    split_ifs
    · exact ⟨orderedValue, ordered.2⟩
    · exact ⟨orderedValue, ordered.1, ordered.2⟩
    · exact ⟨ordered.1, ih ordered.2⟩

/-- Items are in order when every one of them is. -/
theorem orderedItems_iff {items : List Json} :
    OrderedItems items <-> ∀ item ∈ items, Ordered item := by
  induction items with
  | nil => simp [OrderedItems]
  | cons item items ih => simp [OrderedItems, ih]

namespace Parser

/-- Whatever is read is as demanded. -/
def Yields (reading : Reading α) (demand : α -> Prop) : Prop :=
  ∀ value rest, reading = .ok (value, rest) -> demand value

variable {demand : α -> Prop}

/-- A reading yields what it has read. -/
theorem yields_ok {value : α} {rest : List Char} (holds : demand value) :
    Yields (.ok (value, rest)) demand := by
  rintro other left same
  obtain ⟨rfl, -⟩ := Prod.mk.inj (Except.ok.inj same)
  exact holds

/-- A reading that failed yields anything. -/
theorem yields_error {fault : Fault} : Yields (.error fault : Reading α) demand := by
  rintro value rest same
  cases same

/-- A reading that is mapped yields what its function makes of what it has read. -/
theorem yields_map {reading : Except Fault β} {f : β -> α × List Char}
    (holds : ∀ value, reading = .ok value -> demand (f value).1) :
    Yields (reading.map f) demand := by
  rintro value rest same
  cases reading with
  | error fault => cases same
  | ok read =>
    have result : (f read).1 = value := congrArg Prod.fst (Except.ok.inj same)
    rw [← result]
    exact holds read rfl

/-- A choice of readings yields what both of them yield. -/
theorem yields_ite {condition : Prop} [Decidable condition] {yes no : Reading α}
    (whenTrue : Yields yes demand) (whenFalse : Yields no demand) :
    Yields (if condition then yes else no) demand := by
  split_ifs
  · exact whenTrue
  · exact whenFalse

/-! ## Numbers -/

/-- A number with a point or an exponent is in order, like all plain values. -/
theorem real_yields (positive : Bool) (significand : Nat) (exponent : Int) (rest : List Char) :
    Yields (real positive significand exponent rest) Ordered := by
  unfold real
  split
  · exact yields_ok trivial
  · exact yields_error

/-- So is what the digits of an exponent are read as. -/
theorem exponentDigits_yields (positive : Bool) (significand : Nat) (start : Int) (raise : Bool)
    (read : Nat) (input : List Char) :
    Yields (exponentDigits positive significand start raise read input) Ordered := by
  induction input generalizing read with
  | nil => exact real_yields _ _ _ _
  | cons c rest ih =>
    rw [exponentDigits]
    refine yields_ite ?_ (real_yields _ _ _ _)
    refine yields_ite (yields_ite ?_ ?_) (ih _)
    · exact yields_error
    · exact yields_ok trivial

/-- So is what an exponent is read as. -/
theorem exponent_yields (positive : Bool) (significand : Nat) (start : Int)
    (input : List Char) : Yields (exponent positive significand start input) Ordered := by
  unfold exponent
  split
  split
  · exact yields_error
  · split_ifs
    · exact exponentDigits_yields _ _ _ _ _ _
    · exact yields_error

/-- So is what an exponent or the end of a number is read as. -/
theorem exponentOrEnd_yields (positive : Bool) (significand : Nat) (start : Int)
    (input : List Char) : Yields (exponentOrEnd positive significand start input) Ordered := by
  unfold exponentOrEnd
  split
  · exact exponent_yields _ _ _ _
  · exact exponent_yields _ _ _ _
  · exact real_yields _ _ _ _

/-- So is what the digits of a fraction are read as. -/
theorem fractionDigits_yields (positive : Bool) (before : Int) (significand read : Nat)
    (input : List Char) :
    Yields (fractionDigits positive before significand read input) Ordered := by
  induction input generalizing significand read with
  | nil =>
    rw [fractionDigits]
    split_ifs
    · exact yields_error
    · exact real_yields _ _ _ _
  | cons c rest ih =>
    rw [fractionDigits]
    refine yields_ite ?_ (yields_ite yields_error (exponentOrEnd_yields _ _ _ _))
    exact yields_ite (exponentOrEnd_yields _ _ _ _) (ih _ _)

/-- So is what a number with too many digits is read as. -/
theorem longNumber_yields (positive : Bool) (significand dropped : Nat) (input : List Char) :
    Yields (longNumber positive significand dropped input) Ordered := by
  unfold longNumber
  split
  · exact fractionDigits_yields _ _ _ _ _
  · exact exponentOrEnd_yields _ _ _ _

/-- So is what follows a significand. -/
theorem number_yields (positive : Bool) (significand : Nat) (input : List Char) :
    Yields (number positive significand input) Ordered := by
  unfold number
  split
  · exact fractionDigits_yields _ _ _ _ _
  · exact exponent_yields _ _ _ _
  · exact exponent_yields _ _ _ _
  · split_ifs
    · exact yields_ok trivial
    · exact yields_ok trivial
    · exact yields_ok trivial

/-- So is what the digits of a significand are read as. -/
theorem significandDigits_yields (positive : Bool) (significand : Nat) (input : List Char) :
    Yields (significandDigits positive significand input) Ordered := by
  induction input generalizing significand with
  | nil => exact number_yields _ _ _
  | cons c rest ih =>
    rw [significandDigits]
    refine yields_ite ?_ (number_yields _ _ _)
    exact yields_ite (longNumber_yields _ _ _ _) (ih _)

/-- So is a number without its sign. -/
theorem unsignedNumber_yields (positive : Bool) (input : List Char) :
    Yields (unsignedNumber positive input) Ordered := by
  unfold unsignedNumber
  split
  · exact yields_error
  · split
    · split_ifs
      · exact yields_error
      · exact number_yields _ _ _
    · exact number_yields _ _ _
  · split_ifs
    · exact significandDigits_yields _ _ _
    · exact yields_error

/-! ## Lists and objects -/

section

variable {value : List Char -> Reading Json} (ordered : ∀ input, Yields (value input) Ordered)

include ordered

/-- The items of a list are in order when values are read in order. -/
theorem items_yields (fuel : Nat) (first : Bool) (read : List Json) (input : List Char)
    (orderedRead : ∀ item ∈ read, Ordered item) :
    Yields (items value fuel first read input) fun list => ∀ item ∈ list, Ordered item := by
  induction fuel generalizing first read input with
  | zero => exact yields_error
  | succ fuel ih =>
    rw [items]
    split
    · exact yields_error
    · refine yields_ok fun item mem => ?_
      exact orderedRead item (List.mem_reverse.1 mem)
    · split
      · exact yields_error
      · rename_i item rest reading
        refine ih false (item :: read) rest fun other mem => ?_
        rcases List.mem_cons.1 mem with rfl | mem
        · exact ordered _ _ _ reading
        · exact orderedRead other mem

/-- The value of a member is in order when values are read in order. -/
theorem member_yields (input : List Char) :
    Yields (member value input) fun entry => Ordered entry.2 := by
  unfold member
  split
  · exact yields_error
  · split
    · exact yields_error
    · split
      · exact yields_error
      · rename_i result rest reading
        exact yields_ok (ordered _ _ _ reading)
    · exact yields_error

/-- The members of an object are read in order of their keys, and their values in order. -/
theorem members_yields (fuel : Nat) (first : Bool) (read : Members) (input : List Char)
    (sortedRead : Members.Sorted read) (orderedRead : OrderedMembers read) :
    Yields (members value fuel first read input) fun list =>
      Members.Sorted list ∧ OrderedMembers list := by
  induction fuel generalizing first read input with
  | zero => exact yields_error
  | succ fuel ih =>
    rw [members]
    split
    · exact yields_error
    · exact yields_ok ⟨sortedRead, orderedRead⟩
    · split
      · exact yields_error
      · rename_i key result rest reading
        have orderedResult : Ordered result := member_yields ordered _ _ _ reading
        exact ih false _ rest (sortedRead.insert key result) (orderedRead.insert key orderedResult)

end

/-- Values are in order at every depth. The reader goes down one level at a time. -/
theorem value_yields (depth : Nat) (input : List Char) :
    Yields (value depth input) Ordered := by
  induction depth using Nat.strong_induction_on generalizing input with
  | _ depth ih =>
    unfold value
    split
    · exact yields_error
    · exact yields_map fun _ _ => trivial
    · exact yields_map fun _ _ => trivial
    · exact yields_map fun _ _ => trivial
    · exact unsignedNumber_yields _ _
    · exact yields_map fun _ _ => trivial
    · split
      · rename_i rest _ outer
        refine yields_map fun list read => ?_
        have within := ih (outer + 1) (Nat.lt_succ_self _)
        exact orderedItems_iff.2 (items_yields within _ _ [] _ (by simp) _ _ read)
      · exact yields_error
    · split
      · rename_i rest _ outer
        refine yields_map fun list read => ?_
        have within := ih (outer + 1) (Nat.lt_succ_self _)
        exact ordered_object.2
          (members_yields within _ _ [] _ Entries.sorted_nil trivial _ _ read)
      · exact yields_error
    · exact yields_ite (unsignedNumber_yields _ _) yields_error

end Parser

/-- What is read from a text is in key order. -/
theorem parse_ordered {text : String} {value : Json} (read : parse text = .ok value) :
    Ordered value := by
  unfold parse Parser.document at read
  cases reading : Parser.value 128 text.toList with
  | error fault =>
    rw [reading] at read
    cases read
  | ok result =>
    obtain ⟨held, rest⟩ := result
    have ordered : Ordered held := Parser.value_yields _ _ _ _ reading
    rw [reading] at read
    cases blank : Parser.skipSpace rest with
    | nil =>
      simp only [blank] at read
      exact Except.ok.inj read ▸ ordered
    | cons c more =>
      simp only [blank] at read
      cases read

end GuestFleet.Json
