import GuestFleet.Kube.Selector
import Mathlib.Data.List.Basic

/-!
# Selectors of plain words

How a selector is taken apart when the keys and values in it are words without any of the
marks that a selector gives a meaning to.
-/

namespace GuestFleet

/-! ## Texts without marks -/

namespace Text

/-- Nothing is dropped from a text in which no character is to be dropped. -/
theorem dropWhile_of_all {text : List Char} {p : Char -> Bool} (all : ∀ c ∈ text, p c = false) :
    text.dropWhile p = text := by
  cases text with
  | nil => rfl
  | cons c rest =>
    have head := all c List.mem_cons_self
    rw [List.dropWhile_cons, head]
    rfl

/-- A text without blanks has none to lose. -/
theorem trim_of_all {text : List Char} (all : ∀ c ∈ text, isBlank c = false) :
    trim text = text := by
  have reversed : ∀ c ∈ text.reverse, isBlank c = false := by
    intro c mem
    exact all c (List.mem_reverse.1 mem)
  rw [trim, dropEnd, dropWhile_of_all all, dropWhile_of_all reversed, List.reverse_reverse]

section

variable {mark : Char} {before : List Char}

/-- A text without the mark consists of other characters. -/
theorem ne_mark (absent : mark ∉ before) : ∀ c ∈ before, (c != mark) = true := by
  intro c mem
  exact bne_iff_ne.2 fun same => absent (same ▸ mem)

/-- What stands before the first mark. -/
theorem takeWhile_mark (absent : mark ∉ before) (after : List Char) :
    (before ++ mark :: after).takeWhile (· != mark) = before := by
  rw [List.takeWhile_append_of_pos (ne_mark absent), List.takeWhile_cons_of_neg (by simp),
    List.append_nil]

/-- The first mark and what stands after it. -/
theorem dropWhile_mark (absent : mark ∉ before) (after : List Char) :
    (before ++ mark :: after).dropWhile (· != mark) = mark :: after := by
  rw [List.dropWhile_append_of_pos (ne_mark absent), List.dropWhile_cons_of_neg (by simp)]

end

end Text

namespace Kube

namespace SelectorTerm

/-- A text without the first character of a mark is not cut there. -/
theorem cutAt_absent {first : Char} (mark : List Char) {text : List Char} (absent : first ∉ text) :
    cutAt (first :: mark) text = none := by
  induction text with
  | nil => rfl
  | cons c rest ih =>
    rw [List.mem_cons, not_or] at absent
    have head : (first :: mark).isPrefixOf (c :: rest) = false := by
      rw [List.isPrefixOf, beq_false_of_ne absent.1]
      rfl
    rw [cutAt, head, ih absent.2]
    rfl

/-- A text is cut at the first character that is the mark. -/
theorem cutAt_single {mark : Char} {before : List Char} (absent : mark ∉ before)
    (after : List Char) : cutAt [mark] (before ++ mark :: after) = some (before, after) := by
  induction before with
  | nil =>
    have head : [mark].isPrefixOf (mark :: after) = true := by
      simp [List.isPrefixOf]
    rw [List.nil_append, cutAt, head]
    rfl
  | cons c rest ih =>
    rw [List.mem_cons, not_or] at absent
    have head : [mark].isPrefixOf (c :: (rest ++ mark :: after)) = false := by
      rw [List.isPrefixOf, beq_false_of_ne absent.1]
      rfl
    rw [List.cons_append, cutAt, head, ih absent.2]
    rfl

/-- A character that a selector gives no meaning to. -/
def IsPlain (c : Char) : Prop :=
  Text.isBlank c = false ∧ c ∉ [',', '(', ')', '=', '!']

instance (c : Char) : Decidable (IsPlain c) := inferInstanceAs (Decidable (_ ∧ _))

/-- Letters, digits, hyphens, points, slashes and low lines are plain. -/
theorem isPlain_of_code {c : Char} (code : (45 ≤ c.toNat ∧ c.toNat ≤ 57) ∨
    (65 ≤ c.toNat ∧ c.toNat ≤ 90) ∨ c.toNat = 95 ∨ (97 ≤ c.toNat ∧ c.toNat ≤ 122)) :
    IsPlain c := by
  constructor
  · unfold Text.isBlank
    simp only [Bool.or_eq_false_iff, Bool.and_eq_false_iff, decide_eq_false_iff_not,
      beq_eq_false_iff_ne]
    omega
  · intro mem
    simp only [List.mem_cons, List.not_mem_nil, or_false] at mem
    rcases mem with rfl | rfl | rfl | rfl | rfl
    all_goals
      revert code
      decide

/-- A text of plain characters around an equals sign is a term of equality. -/
theorem ofText_equals {key value : List Char} (plainKey : ∀ c ∈ key, IsPlain c)
    (plainValue : ∀ c ∈ value, IsPlain c) :
    ofText (key ++ '=' :: value) = .equals (String.ofList key) (String.ofList value) := by
  have unmarked : ∀ mark : Char, Text.isBlank mark = true ∨ mark = '!' ->
      mark ∉ key ++ '=' :: value := by
    intro mark isMark mem
    rcases List.mem_append.1 mem with mem | mem
    · rcases isMark with blank | rfl
      · cases blank.symm.trans (plainKey mark mem).1
      · exact (plainKey _ mem).2 (by decide)
    · rcases List.mem_cons.1 mem with rfl | mem
      · revert isMark
        decide
      · rcases isMark with blank | rfl
        · cases blank.symm.trans (plainValue mark mem).1
        · exact (plainValue _ mem).2 (by decide)
  have noSet := cutAt_absent ['i', 'n', ' '] (unmarked ' ' (.inl (by decide)))
  have noDifference := cutAt_absent ['='] (unmarked '!' (.inr rfl))
  have equality : cutAt ['='] (key ++ '=' :: value) = some (key, value) :=
    cutAt_single (fun mem => (plainKey _ mem).2 (by decide)) value
  rw [ofText, noSet, noDifference, equality]
  have trimmedKey : trimmed key = String.ofList key := by
    rw [trimmed, Text.trim_of_all fun c mem => (plainKey c mem).1]
  have trimmedValue : trimmed value = String.ofList value := by
    rw [trimmed, Text.trim_of_all fun c mem => (plainValue c mem).1]
  rw [← trimmedKey, ← trimmedValue]

end SelectorTerm

namespace Selector

/-- A text without commas and parentheses is a term up to the next comma. -/
theorem termTexts_comma {text : List Char} (plain : ∀ c ∈ text, c ∉ [',', '(', ')'])
    (rest : List Char) : termTexts 0 (text ++ ',' :: rest) = text :: termTexts 0 rest := by
  induction text with
  | nil => simp [termTexts]
  | cons c text ih =>
    have head := plain c List.mem_cons_self
    simp only [List.mem_cons, List.not_mem_nil, or_false, not_or] at head
    have tail := ih fun other mem => plain other (List.mem_cons_of_mem _ mem)
    simp [termTexts, head, tail]

/-- A selector that begins with a term of equality. -/
theorem terms_equals_comma {selector rest : String} {key value : List Char}
    (plainKey : ∀ c ∈ key, SelectorTerm.IsPlain c)
    (plainValue : ∀ c ∈ value, SelectorTerm.IsPlain c)
    (text : selector.toList = (key ++ '=' :: value) ++ ',' :: rest.toList) :
    terms selector = .equals (String.ofList key) (String.ofList value) :: terms rest := by
  have split : ∀ c ∈ key ++ '=' :: value, c = '=' ∨ SelectorTerm.IsPlain c := by
    intro c mem
    rcases List.mem_append.1 mem with mem | mem
    · exact .inr (plainKey c mem)
    · rcases List.mem_cons.1 mem with rfl | mem
      · exact .inl rfl
      · exact .inr (plainValue c mem)
  have unparted : ∀ c ∈ key ++ '=' :: value, c ∉ [',', '(', ')'] := by
    intro c mem isMark
    rcases split c mem with rfl | plain
    · revert isMark
      decide
    · exact plain.2 (List.mem_append_left ['=', '!'] isMark)
  have unblank : ∀ c ∈ key ++ '=' :: value, Text.isBlank c = false := by
    intro c mem
    rcases split c mem with rfl | plain
    · decide
    · exact plain.1
  have first : (key ++ '=' :: value).isEmpty = false := by
    cases key <;> rfl
  rw [terms, text, termTexts_comma unparted, List.map_cons, Text.trim_of_all unblank,
    List.filter_cons, first]
  show SelectorTerm.ofText _ :: _ = _
  rw [SelectorTerm.ofText_equals plainKey plainValue]
  rfl

end Selector

end Kube

end GuestFleet
