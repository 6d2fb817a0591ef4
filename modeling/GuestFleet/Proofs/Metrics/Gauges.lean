import GuestFleet.Cluster.Names
import GuestFleet.Kube.Object
import GuestFleet.Metrics.Registry
import GuestFleet.Proofs.Decimal
import GuestFleet.Proofs.Metrics.Counts

/-!
# Version gauges

A look at a namespace sets only the gauges of versions that are in use somewhere, or were in use
there until then. All other gauges of the kind stand at nought already, so that after any number
of looks every gauge tells how many objects carried the version when they were last looked at.
-/

namespace GuestFleet.Metrics

open Kube (Kind Object)

/-! ## Looks -/

/-- The objects of a kind that were found in a namespace. -/
structure Look where
  /-- The name under which the objects are counted. -/
  label : String
  space : String
  {kind : Kind}
  objects : List (Object kind)

namespace Look

/-- What is looked at. -/
def scope (look : Look) : Scope := ⟨look.label, look.space⟩

/-- The texts of the versions that the objects name. -/
def texts (look : Look) : List (Option String) :=
  look.objects.map fun object => object.metadata.annotationOf versionKey

/-- How many of the objects carry a version. -/
def carrying (look : Look) (version : Version) : Nat :=
  look.objects.countP fun object =>
    (object.metadata.annotationOf versionKey).bind Version.parse? = some version

/-- The objects that carry a version are as many as the texts that are counted for it. -/
theorem count_texts (look : Look) (version : Version) :
    (Counts.ofTexts look.texts).count version = look.carrying version := by
  rw [Counts.count_ofTexts, texts, List.countP_map]
  rfl

end Look

/-- The last of some looks at a scope. -/
def lastLook (looks : List Look) (scope : Scope) : Option Look :=
  looks.reverse.find? fun look => look.scope == scope

/-- How many objects of a kind carry a version, going by the last look at each namespace. -/
def inView (looks : List Look) (kind : String) (version : Version) : Nat :=
  ∑ space ∈ (looks.map Look.space).toFinset,
    (lastLook looks ⟨kind, space⟩).elim 0 (·.carrying version)

/-- The counts of the last look at a scope. -/
def lastCounts (looks : List Look) (scope : Scope) : Counts :=
  (lastLook looks scope).elim [] fun look => .ofTexts look.texts

/-- A new look is the last one at its scope. -/
theorem lastLook_append (looks : List Look) (look : Look) (scope : Scope) :
    lastLook (looks ++ [look]) scope =
      if scope = look.scope then some look else lastLook looks scope := by
  rw [lastLook, List.reverse_append, List.reverse_singleton, List.singleton_append,
    List.find?_cons]
  by_cases same : look.scope = scope
  · rw [if_pos same.symm, beq_iff_eq.2 same]
  · rw [if_neg (Ne.symm same), beq_false_of_ne same]
    rfl

/-- The counts of the last look are tidy, as are none. -/
theorem tidy_lastCounts (looks : List Look) (scope : Scope) : (lastCounts looks scope).Tidy := by
  unfold lastCounts
  cases lastLook looks scope with
  | none => exact Counts.tidy_nil
  | some look => exact Counts.tidy_ofTexts look.texts

/-- They count the objects that carried a version then. -/
theorem count_lastCounts (looks : List Look) (scope : Scope) (version : Version) :
    (lastCounts looks scope).count version =
      (lastLook looks scope).elim 0 (·.carrying version) := by
  unfold lastCounts
  cases lastLook looks scope with
  | none => rfl
  | some look => exact look.count_texts version

namespace Registry

/-! ## Gauges -/

/-- What the gauge of a version stands at: the number that it was last set to. -/
def gauge (registry : Registry) (kind : String) (version : Version) : Nat :=
  match List.lookup (registry.versionSeries kind version) registry.series with
  | some (.number n) => n
  | _ => 0

/-- The registry with the gauges of a kind set to some counts. -/
def report (registry : Registry) (kind : String) (counts : Counts) : Registry :=
  counts.foldl
    (fun registry entry =>
      registry.put (registry.versionSeries kind entry.1) (.number entry.2))
    registry

/-- Each version of each kind has a gauge of its own. -/
theorem versionSeries_injective {registry : Registry} {kind other : String}
    {version another : Version}
    (same : registry.versionSeries kind version = registry.versionSeries other another) :
    kind = other ∧ version = another := by
  simp only [versionSeries, Series.mk.injEq, List.cons.injEq, Prod.mk.injEq, true_and,
    and_true] at same
  obtain ⟨kinds, majors, minors, patches⟩ := same
  refine ⟨kinds, ?_⟩
  cases version
  cases another
  rw [Version.mk.injEq]
  exact ⟨decimal_injective majors, decimal_injective minors, decimal_injective patches⟩

/-- To set one gauge leaves all others alone. -/
theorem gauge_put (registry : Registry) (kind other : String) (version another : Version)
    (n : Nat) :
    (registry.put (registry.versionSeries kind version) (.number n)).gauge other another =
      if other = kind ∧ another = version then n else registry.gauge other another := by
  have found : List.lookup (registry.versionSeries other another)
      (registry.put (registry.versionSeries kind version) (.number n)).series =
        if other = kind ∧ another = version then some (.number n)
        else List.lookup (registry.versionSeries other another) registry.series := by
    rw [put, Entries.lookup_cons, Entries.lookup_erase]
    by_cases same : other = kind ∧ another = version
    · rw [if_pos same, same.1, same.2, if_pos rfl]
    · have ne : registry.versionSeries other another ≠ registry.versionSeries kind version :=
        fun equal => same (versionSeries_injective equal)
      rw [if_neg same, if_neg ne, if_neg ne]
  rw [gauge, show (registry.put _ _).versionSeries other another =
    registry.versionSeries other another from rfl, found]
  split_ifs <;> rfl

/-- A report sets the gauges of the versions in it and no others. -/
theorem gauge_report (kind : String) {counts : Counts} (nodup : (counts.map Prod.fst).Nodup)
    (registry : Registry) (other : String) (version : Version) :
    (registry.report kind counts).gauge other version =
      (if other = kind then List.lookup version counts else none).getD
        (registry.gauge other version) := by
  induction counts generalizing registry with
  | nil => simp [report]
  | cons head rest ih =>
    obtain ⟨v, n⟩ := head
    obtain ⟨fresh, nodupRest⟩ := List.nodup_cons.1 nodup
    have later := ih nodupRest (registry.put (registry.versionSeries kind v) (.number n))
    rw [gauge_put] at later
    refine later.trans ?_
    rw [Entries.lookup_cons]
    by_cases same : version = v
    · subst same
      have unseen : List.lookup version rest = none := Entries.lookup_eq_none.2 fresh
      by_cases own : other = kind
      · simp [own, unseen]
      · simp [own]
    · simp [same]

/-! ## Runs -/

/-- The registry after a look. -/
def look (registry : Registry) (look : Look) : Registry :=
  (registry.observe look.scope look.texts).2

/-- A new registry after some looks. -/
def after (stem : String) (looks : List Look) : Registry :=
  looks.foldl look { stem := stem }

/-- A look comes after those before it. -/
theorem after_append (stem : String) (looks : List Look) (look : Look) :
    after stem (looks ++ [look]) = (after stem looks).look look := List.foldl_append

/-- What a registry knows after some looks: the last one at every scope, and nothing else. -/
structure Informed (registry : Registry) (looks : List Look) : Prop where
  scopes : (registry.inUse.map Prod.fst).Nodup
  looked : ∀ entry ∈ registry.inUse, ∃ look ∈ looks, look.scope = entry.1
  last : ∀ scope, registry.inUse.last scope = lastCounts looks scope

namespace Informed

variable {registry : Registry} {looks : List Look} (informed : registry.Informed looks)

include informed

/-- All counts that are kept are tidy. -/
theorem tidy : ∀ entry ∈ registry.inUse, entry.2.Tidy := by
  rintro ⟨scope, counts⟩ mem
  have held : registry.inUse.last scope = counts := by
    rw [VersionsInUse.last, Entries.lookup_of_mem informed.scopes mem]
    rfl
  rw [← held, informed.last]
  exact tidy_lastCounts looks scope

/-- So are the totals of each kind. -/
theorem tidy_totals (kind : String) : (registry.inUse.totals kind).Tidy :=
  VersionsInUse.tidy_totals informed.tidy kind

/-- The totals of a kind may be summed over the namespaces of more looks. -/
theorem count_totals (spaces : Finset String) (among : ∀ look ∈ looks, look.space ∈ spaces)
    (kind : String) (version : Version) :
    (registry.inUse.totals kind).count version =
      ∑ space ∈ spaces, (lastCounts looks ⟨kind, space⟩).count version := by
  have within : ∀ entry ∈ registry.inUse, entry.1.space ∈ spaces := by
    intro entry mem
    obtain ⟨look, seen, same⟩ := informed.looked entry mem
    rw [← same]
    exact among look seen
  rw [VersionsInUse.count_totals informed.scopes informed.tidy within]
  simp only [informed.last]

/-- The totals count the objects in view. -/
theorem count_totals_eq (kind : String) (version : Version) :
    (registry.inUse.totals kind).count version = inView looks kind version := by
  have among : ∀ look ∈ looks, look.space ∈ (looks.map Look.space).toFinset :=
    fun look mem => List.mem_toFinset.2 (List.mem_map_of_mem mem)
  rw [informed.count_totals _ among, inView]
  simp only [count_lastCounts]

/-- One more look is known after it. -/
theorem next (look : Look) : (registry.look look).Informed (looks ++ [look]) := by
  refine ⟨VersionsInUse.nodup_set informed.scopes _ _, ?_, fun scope => ?_⟩
  · intro entry mem
    rcases VersionsInUse.mem_set mem with same | mem
    · exact ⟨look, List.mem_append_right _ (List.mem_singleton_self look), same.symm⟩
    · obtain ⟨earlier, seen, same⟩ := informed.looked entry mem
      exact ⟨earlier, List.mem_append_left _ seen, same⟩
  · refine (VersionsInUse.last_set registry.inUse look.scope scope _).trans ?_
    rw [lastCounts, lastLook_append, informed.last]
    split_ifs <;> rfl

/-- The totals after a look are in order. -/
theorem inOrder_totals (look : Look) :
    ((registry.look look).inUse.totals look.label).InOrder :=
  ((informed.next look).tidy_totals look.label).inOrder

/-- The counts of the last look at a scope are in order. -/
theorem inOrder_last (scope : Scope) : (registry.inUse.last scope).InOrder := by
  rw [informed.last]
  exact (tidy_lastCounts looks scope).inOrder

/-- A look reports no other counts than those of the totals after it. -/
theorem count_reported (look : Look) (version : Version) :
    Counts.count (registry.observe look.scope look.texts).1 version =
      ((registry.look look).inUse.totals look.label).count version :=
  VersionsInUse.count_reported (informed.inOrder_totals look) (informed.inOrder_last look.scope)
    version

/-- What a look does not report is used nowhere after it, and was not used in its scope before. -/
theorem unused_of_unreported {look : Look} {version : Version}
    (unreported : List.lookup version (registry.observe look.scope look.texts).1 = none) :
    ((registry.look look).inUse.totals look.label).count version = 0 ∧
      (lastCounts looks look.scope).count version = 0 := by
  have reported := VersionsInUse.lookup_reported (informed.inOrder_totals look)
    (informed.inOrder_last look.scope) version
  rw [← informed.last]
  obtain ⟨unused, unseen⟩ := Option.merge_eq_none_iff.1 (reported.symm.trans unreported)
  exact ⟨congrArg (Option.getD · 0) unused,
    congrArg (Option.getD · 0) (Option.map_eq_none_iff.1 unseen)⟩

/-- A look sets the gauges of what it reports and no others. -/
theorem gauge_look (look : Look) (kind : String) (version : Version) :
    (registry.look look).gauge kind version =
      (if kind = look.label then
        List.lookup version (registry.observe look.scope look.texts).1 else none).getD
          (registry.gauge kind version) := by
  have inOrder := (informed.inOrder_totals look).plus
    ((registry.inUse.last look.scope).map fun entry => (entry.1, 0))
  exact gauge_report look.label inOrder.nodup registry kind version

end Informed

/-- Every gauge stands at the totals. -/
def Current (registry : Registry) : Prop :=
  ∀ kind version, registry.gauge kind version = (registry.inUse.totals kind).count version

/-- After a look all gauges stand at the totals again. -/
theorem Current.next {registry : Registry} {looks : List Look} (current : registry.Current)
    (informed : registry.Informed looks) (look : Look) : (registry.look look).Current := by
  intro kind version
  have sameElsewhere : ∀ scope ≠ look.scope,
      lastCounts (looks ++ [look]) scope = lastCounts looks scope := by
    intro scope ne
    rw [lastCounts, lastLook_append, if_neg ne]
    rfl
  let spaces := ((looks ++ [look]).map Look.space).toFinset
  have among : ∀ seen ∈ looks ++ [look], seen.space ∈ spaces :=
    fun seen mem => List.mem_toFinset.2 (List.mem_map_of_mem mem)
  have after := (informed.next look).count_totals spaces among kind version
  have before := informed.count_totals spaces
    (fun earlier mem => among earlier (List.mem_append_left _ mem)) kind version
  rw [informed.gauge_look]
  by_cases own : kind = look.label
  · subst own
    rw [if_pos rfl]
    cases found : List.lookup version (registry.observe look.scope look.texts).1 with
    | some n =>
      rw [← informed.count_reported look version, Counts.count, found]
      rfl
    | none =>
      obtain ⟨nowhere, unseen⟩ := informed.unused_of_unreported found
      rw [nowhere] at after
      rw [Option.getD_none, current, before, nowhere]
      refine Finset.sum_eq_zero fun space mem => ?_
      by_cases here : (⟨look.label, space⟩ : Scope) = look.scope
      · rw [here, unseen]
      · rw [← sameElsewhere _ here]
        exact Finset.sum_eq_zero_iff.1 after.symm space mem
  · rw [if_neg own, Option.getD_none, current, before, after]
    refine Finset.sum_congr rfl fun space _ => ?_
    rw [sameElsewhere]
    exact fun same => own (congrArg Scope.kind same)

/-- After any looks a registry is informed of them, and its gauges are current. -/
theorem after_holds (stem : String) (looks : List Look) :
    (after stem looks).Informed looks ∧ (after stem looks).Current := by
  induction looks using List.reverseRecOn with
  | nil =>
    refine ⟨⟨List.nodup_nil, fun _ mem => absurd mem List.not_mem_nil, fun _ => rfl⟩, ?_⟩
    exact fun _ _ => rfl
  | append_singleton looks look ih =>
    rw [after_append]
    exact ⟨ih.1.next look, ih.2.next ih.1 look⟩

/-- No gauge goes stale. A look sets the gauges that it reports and leaves the others, and then
every gauge, whether it was set or not, stands at the number of objects in view that carry the
version. The totals list the versions of which there are any. -/
theorem gauges_in_view (stem : String) (looks : List Look) :
    (∀ look kind version, (after stem (looks ++ [look])).gauge kind version =
      (if kind = look.label then
        List.lookup version ((after stem looks).observe look.scope look.texts).1 else none).getD
          ((after stem looks).gauge kind version)) ∧
    (∀ kind version, (after stem looks).gauge kind version = inView looks kind version) ∧
    ∀ kind version n, (version, n) ∈ (after stem looks).inUse.totals kind <->
      n = inView looks kind version ∧ 0 < n := by
  obtain ⟨informed, current⟩ := after_holds stem looks
  refine ⟨?_, ?_, ?_⟩
  · intro look kind version
    rw [after_append]
    exact informed.gauge_look look kind version
  · intro kind version
    rw [current, informed.count_totals_eq]
  · intro kind version n
    rw [(informed.tidy_totals kind).mem_iff, informed.count_totals_eq]

end Registry

end GuestFleet.Metrics
