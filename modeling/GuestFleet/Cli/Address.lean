import GuestFleet.Json.Parser

/-!
# Socket addresses

A host and a port. A host is four numbers with dots between them, or up to eight groups in
brackets; the port stands behind a colon.
-/

namespace GuestFleet.Cli

/-- A host of four numbers below 256. -/
structure Quad where
  first : Nat
  second : Nat
  third : Nat
  fourth : Nat
deriving DecidableEq, Repr

/-- What a socket is opened at. -/
inductive Host where
  | short (quad : Quad)
  /-- Eight numbers below 65536, and the number of a network interface if it is not zero. -/
  | long (groups : List Nat) (interface : Nat)
deriving DecidableEq, Repr

/-- The four numbers as two groups. -/
def Quad.groups (quad : Quad) : List Nat :=
  [quad.first * 256 + quad.second, quad.third * 256 + quad.fourth]

/-- A host and a port. -/
structure Address where
  host : Host
  port : Nat
deriving DecidableEq, Repr

namespace Address

/-! ## Reading -/

/-- A reader takes the start of a text and leaves the rest of it. -/
abbrev Reader (α : Type) := List Char -> Option (α × List Char)

/-- Takes one character. -/
def char (expected : Char) : Reader Unit
  | c :: rest => if c = expected then some ((), rest) else none
  | [] => none

/-- Takes digits of a base below a limit of the value and of the count of digits. -/
def digits (base limit : Nat) : (room value count : Nat) -> Reader (Nat × Nat)
  | _, value, count, [] => some ((value, count), [])
  | room, value, count, c :: rest =>
    match (Json.Parser.hexValue c).filter (· < base), room with
    | none, _ => some ((value, count), c :: rest)
    | some _, 0 => none
    | some digit, room + 1 =>
      let next := value * base + digit
      if next < limit then digits base limit room next (count + 1) rest else none

/-- A number with at least one digit. -/
def number (base limit room : Nat) (input : List Char) : Option (Nat × List Char) := do
  let ((value, count), rest) <- digits base limit room 0 0 input
  if count = 0 then none else some (value, rest)

/-- A decimal number without needless zeros. -/
def octet (input : List Char) : Option (Nat × List Char) := do
  let (value, rest) <- number 10 256 3 input
  if input.head? = some '0' && input.length - rest.length != 1 then none else some (value, rest)

/-- Four numbers with dots between them. -/
def dotted (input : List Char) : Option (Quad × List Char) := do
  let (first, rest) <- octet input
  let (_, rest) <- char '.' rest
  let (second, rest) <- octet rest
  let (_, rest) <- char '.' rest
  let (third, rest) <- octet rest
  let (_, rest) <- char '.' rest
  let (fourth, rest) <- octet rest
  some (⟨first, second, third, fourth⟩, rest)

/-- Takes the colon before every group but the first. -/
def separated (index : Nat) (read : Reader α) (input : List Char) : Option (α × List Char) :=
  if index = 0 then read input else (char ':' input).bind fun (_, rest) => read rest

/-- Takes groups, at most `room` of them. The last two may be four numbers with dots. Also
whether they ended with dots. -/
def groups : (room index : Nat) -> List Char -> (List Nat × Bool) × List Char
  | 0, _, input => (([], false), input)
  | room + 1, index, input =>
    match (if room = 0 then none else separated index dotted input) with
    | some (quad, rest) => ((quad.groups, true), rest)
    | none =>
      match separated index (number 16 0x10000 4) input with
      | some (group, rest) =>
        let ((others, dots), rest) := groups room (index + 1) rest
        ((group :: others, dots), rest)
      | none => (([], false), input)

/-- Eight groups, of which a run of zeros may be left out. -/
def grouped (input : List Char) : Option (List Nat × List Char) := do
  let ((before, dots), rest) := groups 8 0 input
  if before.length = 8 then some (before, rest)
  else if dots then none
  else
    let (_, rest) <- char ':' rest
    let (_, rest) <- char ':' rest
    let ((after, _), rest) := groups (7 - before.length) 0 rest
    some (before ++ List.replicate (8 - before.length - after.length) 0 ++ after, rest)

/-- The number of a network interface, or zero. -/
def interface (input : List Char) : Option (Nat × List Char) :=
  match char '%' input with
  | some (_, rest) => number 10 0x100000000 rest.length rest
  | none => some (0, input)

/-- A colon and a port. -/
def portNumber (input : List Char) : Option (Nat × List Char) := do
  let (_, rest) <- char ':' input
  number 10 0x10000 rest.length rest

/-- A host of four numbers and a port. -/
def plain (input : List Char) : Option (Address × List Char) := do
  let (quad, rest) <- dotted input
  let (port, rest) <- portNumber rest
  some (⟨.short quad, port⟩, rest)

/-- A host in brackets and a port. -/
def bracketed (input : List Char) : Option (Address × List Char) := do
  let (_, rest) <- char '[' input
  let (groups, rest) <- grouped rest
  let (interface, rest) <- interface rest
  let (_, rest) <- char ']' rest
  let (port, rest) <- portNumber rest
  some (⟨.long groups interface, port⟩, rest)

/-- The address that a text names. -/
def ofText? (text : String) : Option Address :=
  match plain text.toList <|> bracketed text.toList with
  | some (address, []) => some address
  | _ => none

/-! ## Printing -/

/-- A number in base sixteen. -/
def groupText (group : Nat) : String := String.ofList (Nat.toDigits 16 group)

/-- Groups with colons between them. -/
def groupTexts (groups : List Nat) : String := ":".intercalate (groups.map groupText)

/-- Where the longest run of zeros begins and how long it is; the first of several. -/
def zeroRun (groups : List Nat) : Nat × Nat :=
  (List.range groups.length).foldl
    (fun best start =>
      let length := ((groups.drop start).takeWhile (· == 0)).length
      if best.2 < length then (start, length) else best)
    (0, 0)

end Address

/-- The four numbers with dots between them. -/
def Quad.text (quad : Quad) : String :=
  ".".intercalate ([quad.first, quad.second, quad.third, quad.fourth].map toString)

/-- The four numbers that groups stand for, if they do. -/
def Quad.ofGroups? : List Nat -> Option Quad
  | [0, 0, 0, 0, 0, 0xffff, high, low] =>
    some ⟨high / 256, high % 256, low / 256, low % 256⟩
  | _ => none

/-- A host as a text. The longest run of two zeros or more is left out. -/
def Host.text : Host -> String
  | .short quad => quad.text
  | .long groups interface =>
    let (start, length) := Address.zeroRun groups
    let groups :=
      match Quad.ofGroups? groups with
      | some quad => "::ffff:" ++ quad.text
      | none =>
        if length < 2 then Address.groupTexts groups
        else
          Address.groupTexts (groups.take start) ++ "::" ++
            Address.groupTexts (groups.drop (start + length))
    "[" ++ groups ++ (if interface = 0 then "" else "%" ++ toString interface) ++ "]"

/-- An address as a text. -/
def Address.text (address : Address) : String :=
  address.host.text ++ ":" ++ toString address.port

/-! ## Listening -/

/-- The host of no particular machine, of the machine itself, or of many machines at once. -/
def Quad.isCommon (quad : Quad) : Bool :=
  quad == ⟨0, 0, 0, 0⟩ || quad.first == 127 || (224 ≤ quad.first && quad.first < 240) ||
    quad == ⟨255, 255, 255, 255⟩

/-- A machine without a network can listen at the host. -/
def Host.isCommon : Host -> Bool
  | .short quad => quad.isCommon
  | .long groups _ =>
    match Quad.ofGroups? groups with
    | some quad => quad.isCommon
    | none => groups.take 7 == List.replicate 7 0 && groups.all (· < 2)

end GuestFleet.Cli
