import Mathlib.Algebra.BigOperators.Group.Finset.Piecewise
import Mathlib.Data.Prod.Lex
import GuestFleet.Metrics.Versions
import GuestFleet.Proofs.Entries

/-!
# Counting versions

Counts are kept in the order of the versions, and what is found under a version after counts
were put together is the sum of what was found before. So the counts of a kind are the sums over
the namespaces.
-/

namespace GuestFleet

/-- Versions are compared as triples of numbers are. -/
theorem Version.lt_iff {a b : Version} :
    a.lt b = true <->
      toLex (a.major, toLex (a.minor, a.patch)) < toLex (b.major, toLex (b.minor, b.patch)) := by
  rw [Prod.Lex.toLex_lt_toLex, Prod.Lex.toLex_lt_toLex, Version.lt]
  split_ifs with major minor
  · simp [major]
  · simp [not_not.1 major, minor]
  · simp [not_not.1 major, not_not.1 minor]

namespace Metrics

/-- Versions by major, then minor, then patch number. -/
local instance versionOrder : LinearOrder Version :=
  LinearOrder.lift' (fun v : Version => toLex (v.major, toLex (v.minor, v.patch)))
    fun a b same => by
      obtain ⟨majors, others⟩ := Prod.mk.injEq _ _ _ _ ▸ toLex.injective same
      obtain ⟨minors, patches⟩ := Prod.mk.injEq _ _ _ _ ▸ toLex.injective others
      cases a
      cases b
      simp_all

namespace Counts

/-- The versions increase strictly. -/
def InOrder (counts : Counts) : Prop :=
  (counts.map Prod.fst).Pairwise fun a b => a.lt b = true

/-- Counts are in order when their entries are sorted by version. -/
theorem inOrder_iff {counts : Counts} : counts.InOrder <-> Entries.Sorted counts := by
  constructor
  · intro inOrder
    exact List.Pairwise.imp Version.lt_iff.1 inOrder
  · intro sorted
    exact List.Pairwise.imp Version.lt_iff.2 sorted

/-- No counts are in order. -/
theorem inOrder_nil : InOrder [] := List.Pairwise.nil

/-- No version is counted twice. -/
theorem InOrder.nodup {counts : Counts} (inOrder : counts.InOrder) :
    (counts.map Prod.fst).Nodup :=
  (inOrder_iff.1 inOrder).nodup

/-- To add to a version is to put the sum in its place. -/
theorem add_eq {counts : Counts} (inOrder : counts.InOrder) (version : Version) (more : Nat) :
    counts.add version more =
      Entries.insert version (counts.count version + more) counts := by
  rw [inOrder_iff] at inOrder
  induction counts with
  | nil => simp [add, Entries.insert, count]
  | cons head rest ih =>
    obtain ⟨v, n⟩ := head
    obtain ⟨above, sortedRest⟩ := Entries.sorted_cons.1 inOrder
    have eq := ih sortedRest
    rw [add, Entries.insert, count, Entries.lookup_cons]
    by_cases same : version = v
    · simp [same]
    · by_cases before : version < v
      · have unseen : List.lookup version rest = none := by
          rw [Entries.lookup_eq_none]
          intro mem
          obtain ⟨entry, among, rfl⟩ := List.mem_map.1 mem
          exact lt_asymm before (above entry among)
        simp [same, before, Version.lt_iff.2 before, unseen]
      · have notBefore : ¬ version.lt v = true := fun less => before (Version.lt_iff.1 less)
        simp [same, before, notBefore, eq, count]

/-- Counts stay in order when something is added to a version. -/
theorem InOrder.add {counts : Counts} (inOrder : counts.InOrder) (version : Version)
    (more : Nat) : (counts.add version more).InOrder := by
  rw [add_eq inOrder, inOrder_iff]
  exact (inOrder_iff.1 inOrder).insert _ _

/-- What is found under a version that is added to is the sum, and nothing else changes. -/
theorem lookup_add {counts : Counts} (inOrder : counts.InOrder) (version other : Version)
    (more : Nat) :
    List.lookup other (counts.add version more) =
      (List.lookup other counts).merge (· + ·) (if other = version then some more else none) := by
  rw [add_eq inOrder]
  by_cases same : other = version
  · rw [if_pos same, same, Entries.lookup_insert_self, count]
    cases List.lookup version counts <;> simp
  · rw [if_neg same, Entries.lookup_insert_of_ne same, Option.merge_none_right]

/-- Counts stay in order when others are added to them. -/
theorem InOrder.plus {a : Counts} (inOrder : a.InOrder) (b : Counts) : (a.plus b).InOrder := by
  induction b generalizing a with
  | nil => exact inOrder
  | cons head rest ih => exact ih (inOrder.add head.1 head.2)

/-- Counts are put together version by version. -/
theorem lookup_plus {a b : Counts} (inOrder : a.InOrder) (nodup : (b.map Prod.fst).Nodup)
    (version : Version) :
    List.lookup version (a.plus b) =
      (List.lookup version a).merge (· + ·) (List.lookup version b) := by
  induction b generalizing a with
  | nil => exact (Option.merge_none_right).symm
  | cons head rest ih =>
    obtain ⟨v, n⟩ := head
    obtain ⟨fresh, nodupRest⟩ := List.nodup_cons.1 nodup
    have later := ih (inOrder.add v n) nodupRest
    rw [lookup_add inOrder] at later
    refine later.trans ?_
    rw [Entries.lookup_cons]
    by_cases same : version = v
    · have unseen : List.lookup version rest = none := Entries.lookup_eq_none.2 (same ▸ fresh)
      rw [if_pos same, if_pos same, unseen, Option.merge_none_right]
    · rw [if_neg same, if_neg same, Option.merge_none_right]

/-- A version counts as often as it did in both. -/
theorem count_plus {a b : Counts} (inOrder : a.InOrder) (nodup : (b.map Prod.fst).Nodup)
    (version : Version) : (a.plus b).count version = a.count version + b.count version := by
  rw [count, lookup_plus inOrder nodup, count, count]
  cases List.lookup version a <;> cases List.lookup version b <;> simp

/-- Counts of what there is: in order, and of no version nought. -/
structure Tidy (counts : Counts) : Prop where
  inOrder : counts.InOrder
  positive : ∀ entry ∈ counts, 0 < entry.2

/-- No counts are tidy. -/
theorem tidy_nil : Tidy [] := ⟨inOrder_nil, fun _ mem => absurd mem List.not_mem_nil⟩

/-- Counts stay tidy when something is added to a version. -/
theorem Tidy.add {counts : Counts} (tidy : counts.Tidy) (version : Version) {more : Nat}
    (some : 0 < more) : (counts.add version more).Tidy := by
  refine ⟨tidy.inOrder.add version more, fun entry mem => ?_⟩
  rw [add_eq tidy.inOrder] at mem
  rcases Entries.mem_insert mem with rfl | mem
  · exact Nat.add_pos_right _ some
  · exact tidy.positive entry mem

/-- Counts stay tidy when others are added that are of no version nought. -/
theorem Tidy.plus {a b : Counts} (tidy : a.Tidy) (positive : ∀ entry ∈ b, 0 < entry.2) :
    (a.plus b).Tidy := by
  induction b generalizing a with
  | nil => exact tidy
  | cons head rest ih =>
    have own := positive head List.mem_cons_self
    exact ih (tidy.add head.1 own) fun entry mem => positive entry (List.mem_cons_of_mem _ mem)

/-- Tidy counts list the versions that there are. -/
theorem Tidy.mem_iff {counts : Counts} (tidy : counts.Tidy) {version : Version} {n : Nat} :
    (version, n) ∈ counts <-> n = counts.count version ∧ 0 < n := by
  unfold count
  constructor
  · intro mem
    rw [Entries.lookup_of_mem tidy.inOrder.nodup mem]
    exact ⟨rfl, tidy.positive _ mem⟩
  · rintro ⟨rfl, positive⟩
    cases found : List.lookup version counts with
    | none => simp [found] at positive
    | some n => exact Entries.mem_of_lookup found

/-! ## Texts -/

/-- The counts with the version of one more text, if it is one. -/
def noted (counts : Counts) (text : Option String) : Counts :=
  match text.bind Version.parse? with
  | some version => counts.add version 1
  | none => counts

/-- One more text leaves counts tidy. -/
theorem Tidy.noted {counts : Counts} (tidy : counts.Tidy) (text : Option String) :
    (counts.noted text).Tidy := by
  unfold Counts.noted
  cases text.bind Version.parse? with
  | none => exact tidy
  | some version => exact tidy.add version Nat.one_pos

/-- One more text adds one to the version that it is read as, and nothing otherwise. -/
theorem count_noted {counts : Counts} (inOrder : counts.InOrder) (text : Option String)
    (version : Version) :
    (counts.noted text).count version =
      counts.count version + if text.bind Version.parse? = some version then 1 else 0 := by
  unfold noted
  cases text.bind Version.parse? with
  | none => rfl
  | some found =>
    simp only [count, lookup_add inOrder, Option.some.injEq, eq_comm (a := version)]
    split_ifs <;> cases List.lookup version counts <;> simp

/-- The counts of texts are tidy. -/
theorem tidy_ofTexts (texts : List (Option String)) : (ofTexts texts).Tidy := by
  have tidy {counts : Counts} (before : counts.Tidy) : (texts.foldl noted counts).Tidy := by
    induction texts generalizing counts with
    | nil => exact before
    | cons text texts ih => exact ih (before.noted text)
  exact tidy tidy_nil

/-- As many texts are counted for a version as can be read as it. -/
theorem count_ofTexts (texts : List (Option String)) (version : Version) :
    (ofTexts texts).count version =
      texts.countP fun text => text.bind Version.parse? = some version := by
  have total {counts : Counts} (before : counts.Tidy) :
      (texts.foldl noted counts).count version = counts.count version +
        texts.countP fun text => text.bind Version.parse? = some version := by
    induction texts generalizing counts with
    | nil => rfl
    | cons text texts ih =>
      rw [List.foldl_cons, ih (before.noted text), count_noted before.inOrder, List.countP_cons]
      simp only [decide_eq_true_eq]
      omega
  exact (total tidy_nil).trans (Nat.zero_add _)

end Counts

/-! ## Scopes -/

namespace VersionsInUse

/-- A new look at a scope is the last one, and those at other scopes stay. -/
theorem last_set (inUse : VersionsInUse) (scope other : Scope) (counts : Counts) :
    (inUse.set scope counts).last other = if other = scope then counts else inUse.last other := by
  have others := Entries.lookup_erase scope other inUse
  rw [last, set]
  by_cases empty : counts.isEmpty
  · rw [if_pos empty, others]
    split_ifs
    · exact (List.isEmpty_iff.1 empty).symm
    · rfl
  · rw [if_neg empty, Entries.lookup_cons, others]
    split_ifs <;> rfl

/-- An entry that was not there before is that of the scope. -/
theorem mem_set {inUse : VersionsInUse} {scope : Scope} {counts : Counts}
    {entry : Scope × Counts} (mem : entry ∈ inUse.set scope counts) :
    entry.1 = scope ∨ entry ∈ inUse := by
  rw [set] at mem
  split_ifs at mem
  · exact .inr (List.mem_of_mem_filter mem)
  · rcases List.mem_cons.1 mem with rfl | mem
    · exact .inl rfl
    · exact .inr (List.mem_of_mem_filter mem)

/-- No scope is kept twice. -/
theorem nodup_set {inUse : VersionsInUse} (nodup : (inUse.map Prod.fst).Nodup) (scope : Scope)
    (counts : Counts) : ((inUse.set scope counts).map Prod.fst).Nodup := by
  have others : ((inUse.filter fun entry => entry.1 != scope).map Prod.fst).Nodup :=
    nodup.sublist (List.filter_sublist.map Prod.fst)
  rw [set]
  split_ifs with empty
  · exact others
  · refine List.nodup_cons.2 ⟨fun mem => ?_, others⟩
    obtain ⟨entry, among, same⟩ := List.mem_map.1 mem
    simpa [same] using (List.mem_filter.1 among).2

/-- The totals of a kind with those of one more scope, if it is of the kind. -/
def summed (kind : String) (sum : Counts) (entry : Scope × Counts) : Counts :=
  if entry.1.kind == kind then sum.plus entry.2 else sum

/-- Totals are tidy if the counts of each scope are. -/
theorem tidy_totals {inUse : VersionsInUse} (tidy : ∀ entry ∈ inUse, entry.2.Tidy)
    (kind : String) : (inUse.totals kind).Tidy := by
  have holds {sum : Counts} (before : sum.Tidy) : (inUse.foldl (summed kind) sum).Tidy := by
    induction inUse generalizing sum with
    | nil => exact before
    | cons head rest ih =>
      refine ih (fun entry mem => tidy entry (List.mem_cons_of_mem _ mem)) ?_
      unfold summed
      split_ifs
      · exact before.plus (tidy head List.mem_cons_self).positive
      · exact before
  exact holds Counts.tidy_nil

/-- What is counted in the namespaces of a kind is what its first entry counts, and the others. -/
theorem sum_last_cons {scope : Scope} {counts : Counts} {rest : VersionsInUse}
    (fresh : scope ∉ rest.map Prod.fst) {spaces : Finset String} (among : scope.space ∈ spaces)
    (kind : String) (version : Version) :
    ∑ space ∈ spaces, (last ((scope, counts) :: rest) ⟨kind, space⟩).count version =
      (if scope.kind = kind then counts.count version else 0) +
        ∑ space ∈ spaces, (rest.last ⟨kind, space⟩).count version := by
  obtain ⟨of, place⟩ := scope
  have each (space : String) :
      (last ((⟨of, place⟩, counts) :: rest) ⟨kind, space⟩).count version =
        (if place = space then if of = kind then counts.count version else 0 else 0) +
          (rest.last ⟨kind, space⟩).count version := by
    rw [last, Entries.lookup_cons]
    by_cases same : (⟨kind, space⟩ : Scope) = ⟨of, place⟩
    · obtain ⟨rfl, rfl⟩ := Scope.mk.injEq _ _ _ _ ▸ same
      have unseen : List.lookup _ rest = none := Entries.lookup_eq_none.2 fresh
      simp [last, unseen, Counts.count]
    · rw [if_neg same]
      have apart : ¬ (place = space ∧ of = kind) := fun ⟨a, b⟩ => same (by rw [a, b])
      rw [← ite_and, if_neg apart, Nat.zero_add]
      rfl
  simp only [each, Finset.sum_add_distrib, Finset.sum_ite_eq, if_pos among]

/-- The totals of a kind are the sums over any namespaces that contain its own. -/
theorem count_totals {inUse : VersionsInUse} (nodup : (inUse.map Prod.fst).Nodup)
    (tidy : ∀ entry ∈ inUse, entry.2.Tidy) {spaces : Finset String}
    (among : ∀ entry ∈ inUse, entry.1.space ∈ spaces) (kind : String) (version : Version) :
    (inUse.totals kind).count version =
      ∑ space ∈ spaces, (inUse.last ⟨kind, space⟩).count version := by
  have total {sum : Counts} (inOrder : sum.InOrder) :
      (inUse.foldl (summed kind) sum).count version = sum.count version +
        ∑ space ∈ spaces, (inUse.last ⟨kind, space⟩).count version := by
    induction inUse generalizing sum with
    | nil => simp [last, Counts.count]
    | cons head rest ih =>
      obtain ⟨scope, counts⟩ := head
      obtain ⟨fresh, nodupRest⟩ := List.nodup_cons.1 nodup
      have own := tidy _ List.mem_cons_self
      have tidyRest : ∀ entry ∈ rest, entry.2.Tidy :=
        fun entry mem => tidy entry (List.mem_cons_of_mem _ mem)
      have amongRest : ∀ entry ∈ rest, entry.1.space ∈ spaces :=
        fun entry mem => among entry (List.mem_cons_of_mem _ mem)
      rw [sum_last_cons fresh (among _ List.mem_cons_self), List.foldl_cons, summed]
      by_cases same : scope.kind = kind
      · rw [if_pos (beq_iff_eq.2 same), if_pos same,
          ih nodupRest tidyRest amongRest (inOrder.plus counts),
          Counts.count_plus inOrder own.inOrder.nodup, Nat.add_assoc]
      · rw [if_neg (mt beq_iff_eq.1 same), if_neg same,
          ih nodupRest tidyRest amongRest inOrder, Nat.zero_add]
  exact (total Counts.inOrder_nil).trans (Nat.zero_add _)

/-- Counts that were set to nought are found under the same versions. -/
theorem lookup_noughts (counts : Counts) (version : Version) :
    List.lookup version (counts.map fun entry => (entry.1, 0)) =
      (List.lookup version counts).map fun _ => 0 := by
  induction counts with
  | nil => rfl
  | cons head rest ih =>
    rw [List.map_cons, Entries.lookup_cons, ih, ← Prod.mk.eta (p := head), Entries.lookup_cons]
    split_ifs <;> rfl

/-- Every version counts nought after that. -/
theorem count_noughts (counts : Counts) (version : Version) :
    Counts.count (counts.map fun entry => (entry.1, 0)) version = 0 := by
  rw [Counts.count, lookup_noughts]
  cases List.lookup version counts <;> rfl

/-- No version is set to nought twice. -/
theorem nodup_noughts {counts : Counts} (inOrder : counts.InOrder) :
    ((counts.map fun entry => (entry.1, 0)).map Prod.fst).Nodup := by
  rw [List.map_map]
  exact inOrder.nodup

section

variable {before after : VersionsInUse} {scope : Scope}
  (inOrder : (after.totals scope.kind).InOrder) (had : (before.last scope).InOrder)
  (version : Version)

include inOrder had

/-- Reported are the versions in the totals of the kind, and those that the scope had before. -/
theorem lookup_reported :
    List.lookup version (reported before after scope) =
      (List.lookup version (after.totals scope.kind)).merge (· + ·)
        ((List.lookup version (before.last scope)).map fun _ => 0) := by
  rw [reported, Counts.lookup_plus inOrder (nodup_noughts had), lookup_noughts]

/-- Whatever is reported, its count is that of the totals. -/
theorem count_reported :
    (reported before after scope).count version = (after.totals scope.kind).count version := by
  rw [reported, Counts.count_plus inOrder (nodup_noughts had), count_noughts, Nat.add_zero]

end

end VersionsInUse

end Metrics

end GuestFleet
