import GuestFleet.Cluster.Reading
import GuestFleet.Cluster.Version

/-!
# Checking clusters

What is wrong with a cluster, as a list of findings, each with the place of the value
it is about. A cluster is valid when there is none.
-/

namespace GuestFleet

/-- A step of the way to a value. -/
inductive PathStep where
  | field (name : String)
  | item (position : Nat)
deriving DecidableEq, Repr

/-- What can be wrong with a value. -/
inductive Violation where
  | idTooLong (id : String)
  | invalidId (id : String)
  | invalidQuantity (text : String)
  | invalidVersion (text : String)
  | customerLength (text : String)
  | noMaster
  | cpusOutOfRange (cpus : Int)
  | duplicateNode (id : String)
deriving DecidableEq, Repr

/-- A cause and the place of the value. -/
structure Finding where
  path : List PathStep
  cause : Violation
deriving DecidableEq, Repr

namespace Violation

/-- The code of a cause. -/
def code : Violation -> String
  | .idTooLong _ => "id_too_long"
  | .invalidId _ => "invalid_id"
  | .invalidQuantity _ => "invalid_quantity"
  | .invalidVersion _ => "invalid_version"
  | .customerLength _ => "length"
  | .noMaster => "length"
  | .cpusOutOfRange _ => "range"
  | .duplicateNode _ => "duplicate_node_id"

/-- The words for a cause. -/
def message : Violation -> String
  | .idTooLong _ => "id exceeds 20 characters"
  | .invalidId id => "'" ++ id ++ "' is not a valid Kubernetes name (RFC 1123)"
  | .invalidQuantity text => "'" ++ text ++ "' is not a valid Kubernetes quantity"
  | .invalidVersion text => "'" ++ text ++ "' is not a <major>.<minor>.<patch> version"
  | .customerLength _ => "customer id must be 1-63 characters"
  | .noMaster => "at least one master node is required"
  | .cpusOutOfRange _ => "cpus must be between 1 and 64"
  | .duplicateNode id => "node id '" ++ id ++ "' is used twice"

/-- The value that a cause is about, and the bounds it was held against. -/
def params : Violation -> Json
  | .idTooLong id => .object [("value", .string id)]
  | .invalidId id => .object [("value", .string id)]
  | .invalidQuantity text => .object [("value", .string text)]
  | .invalidVersion text => .object [("value", .string text)]
  | .customerLength text =>
    .object [("max", .integer 63), ("min", .integer 1), ("value", .string text)]
  | .noMaster => .object [("min", .integer 1), ("value", .array [])]
  | .cpusOutOfRange cpus =>
    .object [("max", .integer 64), ("min", .integer 1), ("value", .integer cpus)]
  | .duplicateNode _ => .object []

end Violation

/-! ## Rules -/

/-- A small letter or a digit. -/
def isNameEnd (c : Char) : Bool := ('a' ≤ c && c ≤ 'z') || c.isDigit

/-- An RFC 1123 label: small letters, digits and hyphens, no hyphen at an end. -/
def isName (text : List Char) : Bool :=
  match text with
  | [] => false
  | first :: _ =>
    isNameEnd first && text.all (fun c => isNameEnd c || c == '-') &&
      isNameEnd (text.getLast?.getD '-')

/-- The units that may follow a quantity. -/
def quantityUnits : List (List Char) :=
  [[], ['K', 'i'], ['M', 'i'], ['G', 'i'], ['T', 'i'], ['P', 'i'], ['E', 'i'], ['k'], ['M'],
    ['G'], ['T'], ['P'], ['E']]

/-- Digits, perhaps a point and digits, perhaps a unit. -/
def isQuantity (text : List Char) : Bool :=
  let whole := text.takeWhile Char.isDigit
  let rest := text.dropWhile Char.isDigit
  let fraction :=
    match rest with
    | '.' :: more => more.takeWhile Char.isDigit
    | _ => []
  let unit :=
    match rest with
    | '.' :: more => if fraction.isEmpty then rest else more.dropWhile Char.isDigit
    | _ => rest
  !whole.isEmpty && quantityUnits.contains unit

/-- An id has at most twenty bytes and is a name. -/
def checkId (id : String) : Option Violation :=
  if id.utf8ByteSize > 20 then some (.idTooLong id)
  else if isName id.toList then none
  else some (.invalidId id)

/-- Memory and disk are amounts. -/
def checkQuantity (text : String) : Option Violation :=
  if isQuantity text.toList then none else some (.invalidQuantity text)

/-- An empty version stands for the oldest bundle. -/
def checkVersion (text : String) : Option Violation :=
  if text.isEmpty || Version.isValid text.toList then none else some (.invalidVersion text)

/-- A customer's id has 1 to 63 characters of any kind. -/
def checkCustomer (text : String) : Option Violation :=
  if 1 ≤ text.length && text.length ≤ 63 then none else some (.customerLength text)

/-- A node has 1 to 64 processors. -/
def checkCpus (cpus : Int) : Option Violation :=
  if 1 ≤ cpus && cpus ≤ 64 then none else some (.cpusOutOfRange cpus)

/-- The first id that stood in the list before. -/
def firstRepeated (seen : List String) : List String -> Option String
  | [] => none
  | id :: ids => if seen.contains id then some id else firstRepeated (id :: seen) ids

/-! ## Findings -/

/-- The finding of a check at a place, if there is one. -/
def at? (path : List PathStep) (cause : Option Violation) : List Finding :=
  (cause.map fun cause => ⟨path, cause⟩).toList

/-- The findings of a node at a place. -/
def Node.findings (path : List PathStep) (node : Node) : List Finding :=
  at? (path ++ [.field "id"]) (checkId node.id) ++
  at? (path ++ [.field "cpus"]) (checkCpus node.cpus) ++
  at? (path ++ [.field "memory"]) (checkQuantity node.memory) ++
  at? (path ++ [.field "disk"]) (checkQuantity node.disk)

/-- The findings of nodes from a position on. -/
def nodesFindings (path : List PathStep) (position : Nat) : List Node -> List Finding
  | [] => []
  | node :: nodes =>
    node.findings (path ++ [.item position]) ++ nodesFindings path (position + 1) nodes

namespace Topology

/-- The findings of the single fields. -/
def fieldFindings (topology : Topology) : List Finding :=
  at? [.field "cluster", .field "id"] (checkId topology.id) ++
  at? [.field "cluster", .field "customer_id"] (checkCustomer topology.customerId) ++
  at? [.field "cluster", .field "masters"]
    (if topology.masters.isEmpty then some .noMaster else none) ++
  nodesFindings [.field "cluster", .field "masters"] 0 topology.masters ++
  nodesFindings [.field "cluster", .field "workers"] 0 topology.workers

/-- Node ids are compared only when every field is right. -/
def findings (topology : Topology) : List Finding :=
  match topology.fieldFindings with
  | [] =>
    at? [.field "cluster", .field "__all__"]
      ((firstRepeated [] ((topology.masters ++ topology.workers).map Node.id)).map .duplicateNode)
  | fields => fields

end Topology

/-- Everything that is wrong with a cluster. -/
def Cluster.findings (cluster : Cluster) : List Finding :=
  cluster.topology.findings ++
  at? [.field "version_bundle", .field "version"] (checkVersion cluster.version)

/-- Nothing is wrong with the cluster. -/
def Cluster.isValid (cluster : Cluster) : Bool := cluster.findings.isEmpty

/-! ## Reports -/

namespace Finding

/-- The way to the value: fields after points, positions in brackets. -/
def pathText : List PathStep -> String
  | [] => ""
  | .field name :: rest => name ++ more rest
  | .item position :: rest => "[" ++ toString position ++ "]" ++ more rest
where
  /-- The way after its first step. -/
  more : List PathStep -> String
    | [] => ""
    | .field name :: rest => "." ++ name ++ more rest
    | .item position :: rest => "[" ++ toString position ++ "]" ++ more rest

/-- The place and the words of a finding. -/
def text (finding : Finding) : String := pathText finding.path ++ ": " ++ finding.cause.message

/-- A finding as a JSON value. -/
def toJson (finding : Finding) : Json :=
  .object [("code", .string finding.cause.code), ("message", .string finding.cause.message),
    ("params", finding.cause.params)]

/-- The name of a step in a report. -/
def stepKey : PathStep -> String
  | .field name => name
  | .item position => toString position

/-- The report with a finding put at the end of a way of keys. -/
def put (leaf : Json) : List String -> Json -> Json
  | [], _ => .array [leaf]
  | key :: keys, report =>
    let members :=
      match report with
      | .object members => members
      | _ => []
    .object (Json.Members.insert key (put leaf keys ((Json.Members.find members key).getD .null))
      members)

/-- The findings as one nested report. -/
def report (findings : List Finding) : Json :=
  findings.foldl (fun report finding => put finding.toJson (finding.path.map stepKey) report)
    (.object [])

/-- The findings as one line of text; line breaks become semicolons. -/
def summary (findings : List Finding) : String :=
  let lines := String.intercalate "\n" (findings.map text)
  String.ofList (lines.toList.flatMap fun c => if c = '\n' then [';', ' '] else [c])

end Finding

end GuestFleet
