import GuestFleet.Proofs.Kube.Selecting

/-!
# Selectors as they are written

A selector that is written from terms over words is taken apart into these terms: parentheses are
balanced in every term, so that it ends at the comma behind it, and no term holds the mark of a sort
of term that is looked for before its own. An object is then selected if, and only if, every term
holds of its labels.
-/

namespace GuestFleet

/-! ## Texts -/

namespace Text

/-- Cutting at a separator is the splitting of lists. -/
theorem splitAt_eq_splitOn (separator : Char) (text : List Char) :
    splitAt separator text = text.splitOn separator := by
  induction text with
  | nil => rfl
  | cons c rest ih =>
    rw [splitAt, ih, List.splitOn_cons_eq_if_modifyHead]
    by_cases same : c = separator
    · rw [if_pos same, if_pos (beq_iff_eq.2 same)]
    · rw [if_neg same, if_neg (by simpa using same)]
      cases parts : rest.splitOn separator with
      | nil => exact absurd parts (List.splitOn_ne_nil separator rest)
      | cons part parts => rfl

/-- A text that neither begins nor ends with a blank has none to lose. -/
theorem trim_of_ends {text : List Char} (first : ∀ c ∈ text.head?, isBlank c = false)
    (last : ∀ c ∈ text.getLast?, isBlank c = false) : trim text = text := by
  have kept (chars : List Char) (begins : ∀ c ∈ chars.head?, isBlank c = false) :
      chars.dropWhile isBlank = chars := by
    cases chars with
    | nil => rfl
    | cons c rest => exact List.dropWhile_cons_of_neg (Bool.eq_false_iff.1 (begins c rfl))
  rw [trim, kept text first, dropEnd, kept text.reverse (by rwa [List.head?_reverse]),
    List.reverse_reverse]

end Text

namespace Kube

open SelectorTerm (IsPlain)

/-! ## Words -/

/-- A character of keys and values: an ASCII letter or digit, or one of four marks. -/
def isWordChar (c : Char) : Bool := c.isAlphanum || ['-', '_', '.', '/'].contains c

/-- A text that can be a key or a value. -/
def IsWord (text : String) : Prop := text ≠ "" ∧ ∀ c ∈ text.toList, isWordChar c = true

/-- The characters of the text are decided one by one, and not all characters there are. -/
instance (text : String) : Decidable (IsWord text) :=
  decidable_of_iff (text ≠ "" ∧ text.toList.all isWordChar = true)
    (and_congr_right fun _ => List.all_eq_true)

/-- The characters of words have no meaning in selectors. -/
theorem isPlain_of_isWordChar {c : Char} (inWord : isWordChar c = true) : IsPlain c := by
  apply SelectorTerm.isPlain_of_code
  rcases Bool.or_eq_true_iff.1 inWord with alphanum | mark
  · rcases Bool.or_eq_true_iff.1 alphanum with alpha | digit
    · rcases Bool.or_eq_true_iff.1 alpha with upper | lower
      · exact .inr (.inl (of_decide_eq_true upper))
      · obtain ⟨low, high⟩ := Bool.and_eq_true_iff.1 lower
        exact .inr (.inr (.inr ⟨of_decide_eq_true low, of_decide_eq_true high⟩))
    · obtain ⟨low, high⟩ := Bool.and_eq_true_iff.1 digit
      exact .inl ⟨Nat.le_trans (by decide) (of_decide_eq_true low), of_decide_eq_true high⟩
  · simp only [List.contains_iff_mem, List.mem_cons, List.not_mem_nil, or_false] at mark
    rcases mark with rfl | rfl | rfl | rfl
    · exact .inl (by decide)
    · exact .inr (.inr (.inl rfl))
    · exact .inl (by decide)
    · exact .inl (by decide)

/-- A word has no marks in it. -/
theorem IsWord.plain {text : String} (word : IsWord text) : ∀ c ∈ text.toList, IsPlain c :=
  fun c mem => isPlain_of_isWordChar (word.2 c mem)

/-- A word is not empty. -/
theorem IsWord.ne_nil {text : String} (word : IsWord text) : text.toList ≠ [] := by
  intro none
  exact word.1 (String.toList_eq_nil_iff.1 none)

/-! ## Writing -/

/-- A term as it is written. -/
def SelectorTerm.text : SelectorTerm -> String
  | .isPresent key => key
  | .equals key value => key ++ "=" ++ value
  | .differs key value => key ++ "!=" ++ value
  | .oneOf key values => key ++ " in (" ++ String.intercalate "," values ++ ")"

/-- Terms with commas between them. -/
def Selector.ofTerms (terms : List SelectorTerm) : String :=
  String.intercalate "," (terms.map SelectorTerm.text)

/-- The keys and values of the term are words, and a set has a value. -/
def SelectorTerm.IsOfWords : SelectorTerm -> Prop
  | .isPresent key => IsWord key
  | .equals key value => IsWord key ∧ IsWord value
  | .differs key value => IsWord key ∧ IsWord value
  | .oneOf key values => IsWord key ∧ values ≠ [] ∧ ∀ value ∈ values, IsWord value

instance : (term : SelectorTerm) -> Decidable term.IsOfWords
  | .isPresent _ => inferInstanceAs (Decidable (IsWord _))
  | .equals _ _ => inferInstanceAs (Decidable (_ ∧ _))
  | .differs _ _ => inferInstanceAs (Decidable (_ ∧ _))
  | .oneOf _ _ => inferInstanceAs (Decidable (_ ∧ _ ∧ _))

/-- What a term asks of labels. -/
def SelectorTerm.Asks (labels : StringMap) : SelectorTerm -> Prop
  | .isPresent key => ∃ value, labels.find key = some value
  | .equals key value => labels.find key = some value
  | .differs key value =>
    labels.find key = none ∨ ∃ other, labels.find key = some other ∧ other ≠ value
  | .oneOf key values => ∃ value ∈ values, labels.find key = some value

/-- A term holds of labels if, and only if, they are what it asks for. -/
theorem SelectorTerm.holds_iff {labels : StringMap} {term : SelectorTerm} :
    term.holds labels = true <-> term.Asks labels := by
  cases term with
  | isPresent key => exact Option.isSome_iff_exists
  | equals key value => exact beq_iff_eq
  | differs key value =>
    rw [holds, bne_iff_ne, Asks]
    cases labels.find key <;> simp
  | oneOf key values =>
    rw [holds, Option.any_eq_true, Asks]
    simp only [List.contains_iff_mem]
    exact exists_congr fun value => and_comm

/-! ## Taking apart -/

namespace Selector

/-- Every text is taken apart into one term at least. -/
theorem termTexts_ne_nil (depth : Int) (text : List Char) : termTexts depth text ≠ [] := by
  cases text with
  | nil => exact List.cons_ne_nil _ _
  | cons c rest =>
    rw [termTexts]
    split
    · exact List.cons_ne_nil _ _
    · dsimp only
      split <;> exact List.cons_ne_nil _ _

/-- The number of open parentheses behind a character. -/
def depthAfter (depth : Int) (c : Char) : Int :=
  if c = '(' then depth + 1 else if c = ')' then depth - 1 else depth

/-- A character that does not end a term stands in front of the first one. -/
theorem termTexts_cons {depth : Int} {c : Char} (within : ¬ (c = ',' ∧ depth = 0))
    (rest : List Char) :
    termTexts depth (c :: rest) = (termTexts (depthAfter depth c) rest).modifyHead (c :: ·) := by
  have inTerm : ¬ (decide (c = ',') && depth == 0) = true := by
    rwa [Bool.and_eq_true, decide_eq_true_eq, beq_iff_eq]
  rw [termTexts, if_neg inTerm, ← depthAfter]
  dsimp only
  cases texts : termTexts (depthAfter depth c) rest with
  | nil => exact absurd texts (termTexts_ne_nil _ _)
  | cons text texts => rfl

/-- No term ends in the text, when it is read with `depth` open parentheses, and it leaves `next`
of them open. -/
def Passes (depth next : Int) (text : List Char) : Prop :=
  ∀ rest, termTexts depth (text ++ rest) = (termTexts next rest).modifyHead (text ++ ·)

/-- No term ends in the empty text. -/
theorem passes_nil (depth : Int) : Passes depth depth [] := by
  intro rest
  cases texts : termTexts depth rest with
  | nil => exact absurd texts (termTexts_ne_nil _ _)
  | cons text texts => exact texts

/-- No term ends at a character that is no comma, or stands within parentheses. -/
theorem passes_cons {depth next : Int} {c : Char} {text : List Char}
    (within : ¬ (c = ',' ∧ depth = 0)) (passes : Passes (depthAfter depth c) next text) :
    Passes depth next (c :: text) := by
  intro rest
  rw [List.cons_append, termTexts_cons within, passes, List.modifyHead_modifyHead]
  rfl

/-- No term ends in two texts after each other if none ends in either of them. -/
theorem Passes.append {depth next last : Int} {text more : List Char}
    (first : Passes depth next text) (second : Passes next last more) :
    Passes depth last (text ++ more) := by
  intro rest
  rw [List.append_assoc, first, second, List.modifyHead_modifyHead]
  congr 1
  funext tail
  exact (List.append_assoc text more tail).symm

/-- A text without parentheses leaves their number as it is. Commas in it matter only if none is
open. -/
theorem passes_of_forall {depth : Int} {text : List Char}
    (flat : ∀ c ∈ text, c ≠ '(' ∧ c ≠ ')' ∧ ¬ (c = ',' ∧ depth = 0)) :
    Passes depth depth text := by
  induction text with
  | nil => exact passes_nil depth
  | cons c text ih =>
    obtain ⟨notOpen, notClose, within⟩ := flat c List.mem_cons_self
    have same : depthAfter depth c = depth := by rw [depthAfter, if_neg notOpen, if_neg notClose]
    refine passes_cons within ?_
    rw [same]
    exact ih fun d mem => flat d (List.mem_cons_of_mem _ mem)

/-- Terms that no comma ends are found again between the commas that join them. -/
theorem termTexts_intercalate {texts : List (List Char)} (filled : texts ≠ [])
    (passes : ∀ text ∈ texts, Passes 0 0 text) :
    termTexts 0 ([','].intercalate texts) = texts := by
  induction texts with
  | nil => exact absurd rfl filled
  | cons text texts ih =>
    have first := passes text List.mem_cons_self
    cases texts with
    | nil =>
      rw [List.intercalate_singleton, ← List.append_nil text, first]
      rfl
    | cons next texts =>
      have later := ih (List.cons_ne_nil _ _) fun other mem =>
        passes other (List.mem_cons_of_mem _ mem)
      have comma (rest : List Char) : termTexts 0 (',' :: rest) = [] :: termTexts 0 rest := rfl
      rw [List.intercalate_cons_cons, List.append_assoc, first, List.singleton_append, comma, later,
        List.modifyHead_cons, List.append_nil]

end Selector

/-! ## Terms -/

namespace SelectorTerm

/-- A text is cut where its mark stands, if the mark does not begin before that. -/
theorem cutAt_mark {first : Char} {before : List Char} (absent : first ∉ before)
    (mark after : List Char) :
    cutAt (first :: mark) (before ++ (first :: mark ++ after)) = some (before, after) := by
  induction before with
  | nil =>
    have head : (first :: mark).isPrefixOf (first :: (mark ++ after)) = true :=
      List.isPrefixOf_iff_prefix.2 ⟨after, rfl⟩
    rw [List.nil_append, List.cons_append, cutAt, if_pos head, List.length_cons,
      List.drop_succ_cons, List.drop_left]
  | cons c rest ih =>
    rw [List.mem_cons, not_or] at absent
    have head : (first :: mark).isPrefixOf (c :: (rest ++ (first :: mark ++ after))) = false := by
      rw [List.isPrefixOf, beq_false_of_ne absent.1]
      rfl
    rw [List.cons_append, cutAt, head, ih absent.2]
    rfl

/-- A word has no blanks around it to lose. -/
theorem trimmed_word {word : String} (isWord : IsWord word) : trimmed word.toList = word := by
  rw [trimmed, Text.trim_of_all fun c mem => (isWord.plain c mem).1, String.ofList_toList]

/-- A character that has a meaning in selectors is in no word. -/
theorem not_mem_word {word : String} (isWord : IsWord word) {mark : Char} (marks : ¬ IsPlain mark) :
    mark ∉ word.toList :=
  fun mem => marks (isWord.plain mark mem)

/-- The text of a set of values. -/
def setText (values : List String) : List Char :=
  '(' :: ([','].intercalate (values.map String.toList) ++ [')'])

/-- A character between commas belongs to one of the words. -/
theorem mem_intercalate {words : List String} {c : Char}
    (mem : c ∈ [','].intercalate (words.map String.toList)) :
    c = ',' ∨ ∃ word ∈ words, c ∈ word.toList := by
  induction words with
  | nil => cases mem
  | cons word words ih =>
    cases words with
    | nil => exact .inr ⟨word, List.mem_cons_self, by simpa using mem⟩
    | cons next words =>
      rw [List.map_cons, List.map_cons, List.intercalate_cons_cons, List.mem_append,
        List.mem_append, List.mem_singleton] at mem
      rcases mem with (mem | rfl) | mem
      · exact .inr ⟨word, List.mem_cons_self, mem⟩
      · exact .inl rfl
      · exact (ih mem).imp_right fun ⟨other, among, inOther⟩ =>
          ⟨other, List.mem_cons_of_mem _ among, inOther⟩

section

variable {values : List String} (words : ∀ value ∈ values, IsWord value)

include words

/-- Between the parentheses of a set there are no others. -/
theorem not_mem_values {mark : Char} (marks : ¬ IsPlain mark) (notComma : mark ≠ ',') :
    mark ∉ [','].intercalate (values.map String.toList) := by
  intro mem
  rcases mem_intercalate mem with comma | ⟨value, among, inValue⟩
  · exact notComma comma
  · exact not_mem_word (words value among) marks inValue

/-- The values of a set are read back. -/
theorem setValues_setText (filled : values ≠ []) : setValues (setText values) = values := by
  let inside := [','].intercalate (values.map String.toList)
  have noOpen : '(' ∉ inside ++ [')'] := by
    rw [List.mem_append, List.mem_singleton, not_or]
    exact ⟨not_mem_values words (by decide) (by decide), by decide⟩
  have noClose : ')' ∉ inside := not_mem_values words (by decide) (by decide)
  have ends : (setText values).getLast? = some ')' := by
    rw [setText, ← List.cons_append, List.getLast?_concat]
  have trimmedSet : Text.trim (setText values) = setText values :=
    Text.trim_of_ends (by rintro _ ⟨⟩; decide) (by rw [ends]; rintro _ ⟨⟩; decide)
  have opened : (setText values).dropWhile (· == '(') = inside ++ [')'] := by
    rw [setText, List.dropWhile_cons_of_pos (by decide)]
    exact Text.dropWhile_of_all fun c mem => beq_false_of_ne fun same => noOpen (same ▸ mem)
  have closed : Text.dropEnd (· == ')') (inside ++ [')']) = inside := by
    rw [Text.dropEnd, List.reverse_append, List.reverse_singleton, List.singleton_append,
      List.dropWhile_cons_of_pos (by decide), Text.dropWhile_of_all, List.reverse_reverse]
    exact fun c mem => beq_false_of_ne fun same => noClose (same ▸ List.mem_reverse.1 mem)
  have parts : Text.splitAt ',' inside = values.map String.toList := by
    rw [Text.splitAt_eq_splitOn]
    refine List.splitOn_intercalate ',' (fun text mem => ?_) (by simpa using filled)
    obtain ⟨value, among, rfl⟩ := List.mem_map.1 mem
    exact not_mem_word (words value among) (by decide)
  rw [setValues, trimmedSet, opened, closed, parts, List.map_map]
  refine (List.map_congr_left fun value among => ?_).trans (List.map_id values)
  exact trimmed_word (words value among)

end

/-- The text is read as a term wherever it stands between commas. -/
structure Spells (text : List Char) (term : SelectorTerm) : Prop where
  passes : Selector.Passes 0 0 text
  trimmed : Text.trim text = text
  filled : text ≠ []
  read : ofText text = term

/-- A text without blanks, commas and parentheses is one term. -/
theorem spells_flat {text : List Char} {term : SelectorTerm}
    (flat : ∀ c ∈ text, IsPlain c ∨ c = '=' ∨ c = '!') (filled : text ≠ [])
    (read : ofText text = term) : Spells text term := by
  have inTerm : ∀ c ∈ text, Text.isBlank c = false ∧ c ≠ '(' ∧ c ≠ ')' ∧ c ≠ ',' := by
    intro c mem
    rcases flat c mem with plain | rfl | rfl
    · refine ⟨plain.1, ?_, ?_, ?_⟩ <;> rintro rfl <;> exact absurd plain (by decide)
    · decide
    · decide
  refine ⟨Selector.passes_of_forall fun c mem => ?_, Text.trim_of_all fun c mem => (inTerm c mem).1,
    filled, read⟩
  obtain ⟨-, notOpen, notClose, notComma⟩ := inTerm c mem
  exact ⟨notOpen, notClose, fun ends => notComma ends.1⟩

section

variable {key value : String} (isKey : IsWord key)

include isKey

/-- A key alone asks for a label to be present. -/
theorem spells_isPresent : Spells (text (.isPresent key)).toList (.isPresent key) := by
  refine spells_flat (fun c mem => .inl (isKey.plain c mem)) isKey.ne_nil ?_
  have noSet := cutAt_absent ['i', 'n', ' '] (not_mem_word isKey (by decide : ¬ IsPlain ' '))
  have noDifference := cutAt_absent ['='] (not_mem_word isKey (by decide : ¬ IsPlain '!'))
  have noEquality := cutAt_absent [] (not_mem_word isKey (by decide : ¬ IsPlain '='))
  rw [text, ofText, noSet, noDifference, noEquality]
  exact congrArg isPresent (trimmed_word isKey)

/-- A key with a set of values asks for one of them. -/
theorem spells_oneOf {values : List String} (filled : values ≠ [])
    (words : ∀ value ∈ values, IsWord value) :
    Spells (text (.oneOf key values)).toList (.oneOf key values) := by
  have chars : (text (.oneOf key values)).toList =
      key.toList ++ ([' ', 'i', 'n', ' '] ++ setText values) := by
    simp [text, setText]
  have begins : ∃ c rest, key.toList = c :: rest := List.exists_cons_of_ne_nil isKey.ne_nil
  have ends : (key.toList ++ ([' ', 'i', 'n', ' '] ++ setText values)).getLast? =
      some ')' := by
    rw [setText, ← List.cons_append, ← List.append_assoc, ← List.append_assoc, List.getLast?_concat]
  rw [chars]
  constructor
  · have before : Selector.Passes 0 0 (key.toList ++ [' ', 'i', 'n', ' ']) :=
      (spells_isPresent isKey).passes.append (Selector.passes_of_forall (by simp))
    have inside : Selector.Passes 1 1 ([','].intercalate (values.map String.toList)) := by
      refine Selector.passes_of_forall fun c mem => ⟨?_, ?_, fun ends => absurd ends.2 (by decide)⟩
      · rintro rfl
        exact not_mem_values words (by decide) (by decide) mem
      · rintro rfl
        exact not_mem_values words (by decide) (by decide) mem
    have close : Selector.Passes 1 0 [')'] :=
      Selector.passes_cons (by decide) (Selector.passes_nil 0)
    have set : Selector.Passes 0 0 (setText values) :=
      Selector.passes_cons (by decide) (inside.append close)
    rw [← List.append_assoc]
    exact before.append set
  · obtain ⟨c, rest, isFirst⟩ := begins
    refine Text.trim_of_ends ?_ ?_
    · rw [isFirst]
      rintro _ ⟨⟩
      exact (isKey.plain c (isFirst ▸ List.mem_cons_self)).1
    · rw [ends]
      rintro _ ⟨⟩
      decide
  · intro none
    exact isKey.ne_nil (List.append_eq_nil_iff.1 none).1
  · have cut := cutAt_mark (not_mem_word isKey (by decide : ¬ IsPlain ' ')) ['i', 'n', ' ']
      (setText values)
    rw [ofText, cut]
    exact congrArg₂ oneOf (trimmed_word isKey) (setValues_setText words filled)

variable (isValue : IsWord value)

include isValue

/-- A key and a value around an equals sign ask for that value. -/
theorem spells_equals : Spells (text (.equals key value)).toList (.equals key value) := by
  have chars : (text (.equals key value)).toList = key.toList ++ '=' :: value.toList := by
    simp [text]
  rw [chars]
  refine spells_flat (fun c mem => ?_) (by simp) ?_
  · rcases List.mem_append.1 mem with mem | mem
    · exact .inl (isKey.plain c mem)
    · rcases List.mem_cons.1 mem with rfl | mem
      · exact .inr (.inl rfl)
      · exact .inl (isValue.plain c mem)
  · rw [ofText_equals isKey.plain isValue.plain, String.ofList_toList, String.ofList_toList]

/-- A key and a value around the mark of a difference ask for another value or for none. -/
theorem spells_differs : Spells (text (.differs key value)).toList (.differs key value) := by
  have chars : (text (.differs key value)).toList =
      key.toList ++ (['!', '='] ++ value.toList) := by
    simp [text]
  have marks : ∀ c ∈ key.toList ++ (['!', '='] ++ value.toList), IsPlain c ∨ c = '=' ∨ c = '!' := by
    intro c mem
    rcases List.mem_append.1 mem with mem | mem
    · exact .inl (isKey.plain c mem)
    · rcases List.mem_append.1 mem with mem | mem
      · exact .inr (by simpa [or_comm] using mem)
      · exact .inl (isValue.plain c mem)
  have noBlank : ' ' ∉ key.toList ++ (['!', '='] ++ value.toList) :=
    fun mem => absurd (marks ' ' mem) (by decide)
  have noSet := cutAt_absent ['i', 'n', ' '] noBlank
  have cut := cutAt_mark (not_mem_word isKey (by decide : ¬ IsPlain '!')) ['='] value.toList
  rw [chars]
  refine spells_flat marks (by simp) ?_
  rw [ofText, noSet, cut]
  exact congrArg₂ differs (trimmed_word isKey) (trimmed_word isValue)

end

/-- A term over words is read back from its text. -/
theorem spells_text {term : SelectorTerm} (ofWords : term.IsOfWords) :
    Spells term.text.toList term := by
  cases term with
  | isPresent key => exact spells_isPresent ofWords
  | equals key value => exact spells_equals ofWords.1 ofWords.2
  | differs key value => exact spells_differs ofWords.1 ofWords.2
  | oneOf key values => exact spells_oneOf ofWords.1 ofWords.2.1 ofWords.2.2

end SelectorTerm

namespace Selector

/-- Terms over words are read back from a selector. -/
theorem terms_ofTerms {terms : List SelectorTerm} (ofWords : ∀ term ∈ terms, term.IsOfWords) :
    Selector.terms (ofTerms terms) = terms := by
  have spells : ∀ term ∈ terms, term.Spells term.text.toList :=
    fun term mem => SelectorTerm.spells_text (ofWords term mem)
  let texts : List (List Char) := terms.map fun term => term.text.toList
  have written : (ofTerms terms).toList = [','].intercalate texts := by
    rw [ofTerms, String.toList_intercalate, List.map_map]
    rfl
  rcases eq_or_ne terms [] with rfl | filled
  · rfl
  · have passes : ∀ text ∈ texts, Passes 0 0 text := by
      intro text mem
      obtain ⟨term, among, rfl⟩ := List.mem_map.1 mem
      exact (spells term among).passes
    have parted : termTexts 0 ([','].intercalate texts) = texts :=
      termTexts_intercalate (by simpa [texts] using filled) passes
    have trimmed : texts.map Text.trim = texts := by
      rw [List.map_map]
      exact List.map_congr_left fun term mem => (spells term mem).trimmed
    have kept : texts.filter (fun text => !text.isEmpty) = texts := by
      refine List.filter_eq_self.2 fun text mem => ?_
      obtain ⟨term, among, rfl⟩ := List.mem_map.1 mem
      simpa using (spells term among).filled
    rw [Selector.terms, written, parted, trimmed, kept, List.map_map]
    exact (List.map_congr_left fun term mem => (spells term mem).read).trans (List.map_id terms)

/-- A selector that is written from terms over words selects what all of the terms hold of. -/
theorem selects_ofTerms {terms : List SelectorTerm} (ofWords : ∀ term ∈ terms, term.IsOfWords)
    (labels : Option StringMap) :
    selects (ofTerms terms) labels = true <-> ∀ term ∈ terms, term.Asks (labels.getD []) := by
  rw [selects, terms_ofTerms ofWords, List.all_eq_true]
  exact forall₂_congr fun term _ => SelectorTerm.holds_iff

end Selector

end Kube

end GuestFleet
