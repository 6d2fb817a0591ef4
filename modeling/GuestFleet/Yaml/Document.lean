import GuestFleet.Json.Printer
import GuestFleet.Yaml.Scalar

/-!
# YAML documents

A tree of texts, other words, lists and maps in block style. Nested levels are indented
by two blanks, save lists in maps, which stand under their key. Keys are plain words.
-/

namespace GuestFleet.Yaml

/-- A part of a document. -/
inductive Node where
  | text (value : String)
  /-- A number, a truth value or null, written as it is. -/
  | word (value : String)
  | list (items : List Node)
  | map (entries : List (String × Node))

namespace Node

mutual

/-- The tree of a JSON value. -/
def ofJson : Json -> Node
  | .null => .word "null"
  | .bool value => .word (if value then "true" else "false")
  | .integer value => .word (String.ofList (Json.integerChars value))
  | .real value => .word (value.text Json.numberStyle)
  | .string value => .text value
  | .array items => .list (ofItems items)
  | .object members => .map (ofMembers members)

/-- The trees of items. -/
def ofItems : List Json -> List Node
  | [] => []
  | item :: items => ofJson item :: ofItems items

/-- The trees of members. -/
def ofMembers : List (String × Json) -> List (String × Node)
  | [] => []
  | (key, value) :: members => (key, ofJson value) :: ofMembers members

end

/-- The characters with a line end after them, unless they end with one. -/
def endLine (line : List Char) : List Char :=
  if line.getLast?.any isBreak then line else line ++ ['\n']

mutual

/-- A part after the key that it belongs to, up to the end of its line. -/
def value (indent : Nat) : Node -> List Char
  | .text value => endLine (' ' :: scalar (indent + 2) value.toList)
  | .word value => ' ' :: (value.toList ++ ['\n'])
  | .list [] => [' ', '[', ']', '\n']
  | .list (item :: items) => '\n' :: lines indent (item :: items)
  | .map [] => [' ', '\x7b', '\x7d', '\n']
  | .map (entry :: entries) =>
    '\n' :: (blanks (indent + 2) ++ members (indent + 2) (entry :: entries))

/-- The items of a list, each after its dash. -/
def lines (indent : Nat) : List Node -> List Char
  | [] => []
  | item :: items => blanks indent ++ '-' :: (inList indent item ++ lines indent items)

/-- An item after its dash. -/
def inList (indent : Nat) : Node -> List Char
  | .text value => endLine (' ' :: scalar (indent + 2) value.toList)
  | .word value => ' ' :: (value.toList ++ ['\n'])
  | .list [] => [' ', '[', ']', '\n']
  | .list (item :: items) =>
    ' ' :: '-' :: (inList (indent + 2) item ++ lines (indent + 2) items)
  | .map entries => ' ' :: members (indent + 2) entries

/-- The entries of a map; the first starts where the writer stands. -/
def members (indent : Nat) : List (String × Node) -> List Char
  | [] => ['\x7b', '\x7d', '\n']
  | [(key, part)] => key.toList ++ ':' :: value indent part
  | (key, part) :: entries =>
    key.toList ++ ':' :: (value indent part ++ blanks indent ++ members indent entries)

end

end Node

/-- The text of a document that is a map. -/
def document (entries : List (String × Node)) : String :=
  String.ofList (Node.members 0 entries)

end GuestFleet.Yaml
