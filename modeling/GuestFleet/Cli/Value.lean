import GuestFleet.Cli.Address
import GuestFleet.Text.Similar

/-!
# Values on the command line

The types of the values that options take, and why a text is no value of a type.
-/

namespace GuestFleet.Cli

/-- Why a text is no number. -/
inductive NumberFault where
  | empty
  | invalidDigit
  | tooLarge
  | tooSmall
deriving DecidableEq, Repr

/-- The words for a fault of a number. -/
def NumberFault.message : NumberFault -> String
  | .empty => "cannot parse integer from empty string"
  | .invalidDigit => "invalid digit found in string"
  | .tooLarge => "number too large to fit in target type"
  | .tooSmall => "number too small to fit in target type"

/-- Goes on reading digits of a number within bounds, each of which counts with a sign. -/
def readDigits (low high sign : Int) : Int -> List Char -> Except NumberFault Int
  | value, [] => .ok value
  | value, c :: rest =>
    if c.isDigit then
      let next := value * 10 + sign * (Int.ofNat (c.toNat - '0'.toNat))
      if high < next then .error .tooLarge
      else if next < low then .error .tooSmall
      else readDigits low high sign next rest
    else .error .invalidDigit

/-- A number within bounds; only bounds below zero allow a minus. -/
def readNumber (low high : Int) (text : String) : Except NumberFault Int :=
  match text.toList with
  | [] => .error .empty
  | ['+'] => .error .invalidDigit
  | ['-'] => .error .invalidDigit
  | '+' :: rest => readDigits low high 1 0 rest
  | '-' :: rest =>
    if low < 0 then readDigits low high (-1) 0 rest else .error .invalidDigit
  | digits => readDigits low high 1 0 digits

/-- How much is logged. -/
inductive LogLevel where
  | error
  | warn
  | info
  | debug
  | trace
deriving DecidableEq, Repr

namespace LogLevel

/-- Every level, from the one that logs least. -/
def all : List LogLevel := [.error, .warn, .info, .debug, .trace]

/-- The name of a level. -/
def name : LogLevel -> String
  | .error => "error"
  | .warn => "warn"
  | .info => "info"
  | .debug => "debug"
  | .trace => "trace"

/-- The number of a level. -/
def number : LogLevel -> Nat
  | .error => 1
  | .warn => 2
  | .info => 3
  | .debug => 4
  | .trace => 5

/-- The level with a name, in whatever case, or with a number. -/
def ofText? (text : String) : Option LogLevel :=
  let lower := text.toList.map Char.toLower
  let number := (readNumber 0 0xffffffffffffffff text).toOption
  all.find? fun level => level.name.toList == lower || number == some (Int.ofNat level.number)

end LogLevel

/-- The types of values. -/
inductive ValueType where
  | text
  /-- True or false. -/
  | truth
  /-- A number of up to 32 bits. -/
  | count32
  /-- A number of up to 64 bits. -/
  | count64
  | level
  | address
deriving DecidableEq, Repr

/-- Why a text is no value of a type. -/
inductive ValueFault where
  | because (reason : String)
  /-- There are but a few values. -/
  | notAmong (values : List String)
deriving DecidableEq, Repr

/-- What is wrong with a text as a value of a type. -/
def ValueType.fault? (type : ValueType) (text : String) : Option ValueFault :=
  match type with
  | .text => none
  | .truth =>
    if text = "true" || text = "false" then none else some (.notAmong ["true", "false"])
  | .count32 =>
    match readNumber (-0x8000000000000000) 0x7fffffffffffffff text with
    | .ok value =>
      if 0 ≤ value && value < 0x100000000 then none
      else some (.because (toString value ++ " is not in 0..=4294967295"))
    | .error fault => some (.because fault.message)
  | .count64 =>
    match readNumber 0 0xffffffffffffffff text with
    | .ok _ => none
    | .error fault => some (.because fault.message)
  | .level =>
    if (LogLevel.ofText? text).isSome then none
    else
      some (.because ("error parsing level: expected one of \"error\", \"warn\", \"info\", " ++
        "\"debug\", \"trace\", or a number 1-5"))
  | .address =>
    if (Address.ofText? text).isSome then none
    else some (.because "invalid socket address syntax")

end GuestFleet.Cli
