import GuestFleet.Cli.Value
import GuestFleet.Text.Blank
import GuestFleet.Text.Pattern

/-!
# Log filters

Which records are logged: rules for targets and for the fields of records, of which the
most specific one decides.
-/

namespace GuestFleet.Cli

/-- A record of a log, as far as filters look at it. -/
structure LogRecord where
  level : LogLevel
  target : String
  /-- The names of its fields. -/
  fields : List String
deriving DecidableEq, Repr

/-- A rule of a filter. -/
structure LogRule where
  /-- What the targets start with that it is for; it is for all of them if there is none. -/
  target : Option String := none
  /-- The fields that records have that it is for. -/
  fields : List String := []
  /-- It holds only inside of some spans, by their name or the values of their fields. -/
  inSpan : Bool := false
  /-- How much is logged, if anything is. -/
  level : Option LogLevel := some .trace
deriving DecidableEq, Repr

/-- The rules of a filter. -/
abbrev LogFilter := List LogRule

namespace LogRule

/-- How much is logged, from the name of a level in whatever case or its number; `off` and
zero are nothing. -/
def level? (text : List Char) : Option (Option LogLevel) :=
  let number := (readNumber 0 0xffffffffffffffff (String.ofList text)).toOption
  let lower := text.map Char.toLower
  if number = some 0 || lower = "off".toList then some none
  else
    (LogLevel.all.find? fun level =>
      level.name.toList == lower || number == some (Int.ofNat level.number)).map some

/-! ## Reading -/

/-- Where in a rule the reading is, and at which byte the part began. -/
inductive Part where
  | start
  /-- In a level or a target. -/
  | name (began : Nat)
  /-- In the name of a span. -/
  | span (began : Nat)
  /-- In the field of a span. -/
  | field (began : Nat)
  /-- Behind the fields of a span. -/
  | fieldsEnd
  /-- Behind a span. -/
  | spanEnd
  | level (began : Nat)
deriving DecidableEq, Repr

/-- The characters of a text from one byte up to another. -/
def slice (low high : Nat) : (offset : Nat) -> List Char -> List Char
  | _, [] => []
  | offset, c :: rest =>
    let others := slice low high (offset + c.utf8Size) rest
    if low ≤ offset && offset < high then c :: others else others

/-- The characters of a text from a byte on. -/
def sliceFrom (began : Nat) (text : List Char) : List Char :=
  slice began (String.ofList text).utf8ByteSize 0 text

/-- The characters that a level or target starts with. -/
def isNameStart (c : Char) : Bool := c == '-' || c == ':' || c == '_' || Text.isAlphanumeric c

/-- A number without a sign: digits with or without a point and an exponent, or one that is
no digits at all. -/
def isNumber (text : List Char) : Bool :=
  let whole := text.takeWhile Char.isDigit
  let rest := text.drop whole.length
  let fraction := if rest.head? = some '.' then (rest.drop 1).takeWhile Char.isDigit else []
  let rest := if rest.head? = some '.' then rest.drop (fraction.length + 1) else rest
  let isExponent : List Char -> Bool
    | [] => true
    | mark :: exponent =>
      let isSigned := ("+-".toList).contains (exponent.headD '0')
      let digits := if isSigned then exponent.drop 1 else exponent
      mark.toLower == 'e' && !digits.isEmpty && digits.all Char.isDigit
  (!(whole ++ fraction).isEmpty && isExponent rest) ||
    ["inf", "infinity", "nan"].contains (String.ofList (text.map Char.toLower))

/-- What a field can be compared with: patterns and numbers. Only numbers with a plus sign are
no patterns. -/
def isValue : List Char -> Bool
  | '+' :: rest => isNumber rest
  | text => Text.isPattern text

/-- The rule with one more field. One with a value is looked for in spans. -/
def withField? (field : List Char) (rule : LogRule) : Option LogRule :=
  match Text.splitAt '=' field with
  | name :: values =>
    if (values.take 1).all isValue then
      some { rule with
        fields := rule.fields ++ [String.ofList name]
        inSpan := rule.inSpan || !values.isEmpty }
    else none
  | [] => none

/-- Takes the character at a byte. Parts are cut out of `text`. -/
def take (text : List Char) (offset : Nat) (c : Char) :
    Part × LogRule -> Option (Part × LogRule)
  | (.start, rule) =>
    if c = '[' then some (.span (offset + 1), rule)
    else if isNameStart c then some (.name offset, rule)
    else none
  | (.name began, rule) =>
    let targeted := { rule with target := some (String.ofList (slice began offset 0 text)) }
    if c = '=' then some (.level (offset + 1), targeted)
    else if c = '[' then some (.span (offset + 1), targeted)
    else some (.name began, rule)
  | (.span began, rule) =>
    if c = ']' then some (.spanEnd, { rule with inSpan := true })
    else if c = '\x7b' then
      some (.field (offset + 1), { rule with inSpan := !(slice began offset 0 text).isEmpty })
    else some (.span began, rule)
  | (.field began, rule) =>
    if c = '\x7d' then
      match slice began offset 0 text with
      | [] => none
      | field => (rule.withField? field).map fun rule => (.fieldsEnd, rule)
    else some (.field began, rule)
  | (.fieldsEnd, rule) => if c = ']' then some (.spanEnd, rule) else none
  | (.spanEnd, rule) => if c = '=' then some (.level (offset + 1), rule) else none
  | (.level began, rule) => some (.level began, rule)

/-- Takes characters from a byte on. -/
def takeAll (text : List Char) :
    (offset : Nat) -> List Char -> Part × LogRule -> Option (Part × LogRule)
  | _, [], state => some state
  | offset, c :: rest, state =>
    (take text offset c state).bind (takeAll text (offset + c.utf8Size) rest)

/-- The rule when all characters are taken. -/
def finish (text : List Char) : Part × LogRule -> Option LogRule
  | (.name began, rule) =>
    let last := sliceFrom began text
    match level? last with
    | some level => some { rule with level := level }
    | none => some { rule with target := some (String.ofList last) }
  | (.level began, rule) =>
    match sliceFrom began text with
    | [] => some rule
    | name => (level? name).map fun level => { rule with level := level }
  | (.spanEnd, rule) => some rule
  | _ => none

/-- A rule from a text: a level, or a target or spans with or without a level. Blanks around
the text are passed over, but the parts are cut out as if it had begun at the blanks. -/
def ofText? (text : List Char) : Option LogRule :=
  (takeAll text 0 (Text.trim text) (.start, {})).bind (finish text)

/-! ## Records -/

/-- The rule is for a record. -/
def concerns (rule : LogRule) (record : LogRecord) : Bool :=
  !rule.inSpan && rule.fields.all record.fields.contains &&
    (match rule.target with
      | some start => record.target.startsWith start
      | none => true)

/-- How much of a target the rule names. -/
def reach (rule : LogRule) : Nat :=
  match rule.target with
  | some start => start.utf8ByteSize + 1
  | none => 0

/-- The rule is less specific than another one: by its target, else by how many fields it
names, else by their names. -/
def isBelow (a b : LogRule) : Bool :=
  decide (a.reach < b.reach) ||
    (a.reach == b.reach &&
      (decide (a.fields.length < b.fields.length) ||
        (a.fields.length == b.fields.length && decide (a.fields < b.fields))))

end LogRule

namespace LogFilter

/-- A filter from rules with commas between them; without a rule, errors are logged. -/
def ofText? (text : String) : Option LogFilter :=
  let parts := (Text.splitAt ',' text.toList).filter fun part => !part.isEmpty
  if parts.isEmpty then some [{ level := some .error }] else parts.mapM LogRule.ofText?

/-- The filter for a level: warnings of others, and more of the operator. -/
def ofLevel (level : LogLevel) : LogFilter :=
  [{ level := some .warn }, { target := some "kvm_operator", level := some level }]

/-- The rule that decides on a record: the most specific one, and the last of several. -/
def deciding? (filter : LogFilter) (record : LogRecord) : Option LogRule :=
  (filter.filter fun rule => rule.concerns record).foldl
    (fun best rule =>
      match best with
      | none => some rule
      | some kept => if rule.isBelow kept then some kept else some rule)
    none

/-- A record is logged. -/
def isEnabled (filter : LogFilter) (record : LogRecord) : Bool :=
  match (filter.deciding? record).bind (·.level) with
  | some most => decide (record.level.number ≤ most.number)
  | none => false

end LogFilter

end GuestFleet.Cli
