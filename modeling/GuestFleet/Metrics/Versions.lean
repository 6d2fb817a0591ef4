import GuestFleet.Cluster.Version
import GuestFleet.Json.Basic

/-!
# Versions in use

How many objects of each kind carry which version, namespace by namespace. A new look
at a namespace replaces what was known of it, and tells of versions that are gone as
well, so that nothing goes stale.
-/

namespace GuestFleet.Metrics

/-- Versions in increasing order, each with a count. -/
abbrev Counts := List (Version × Nat)

namespace Counts

/-- The count of a version. -/
def count (counts : Counts) (version : Version) : Nat := (List.lookup version counts).getD 0

/-- The counts with so many more of a version. -/
def add (version : Version) (more : Nat) : Counts -> Counts
  | [] => [(version, more)]
  | (v, n) :: rest =>
    if version = v then (v, n + more) :: rest
    else if version.lt v then (version, more) :: (v, n) :: rest
    else (v, n) :: add version more rest

/-- Both counts together. -/
def plus (a b : Counts) : Counts := b.foldl (fun counts entry => counts.add entry.1 entry.2) a

/-- The counts of the texts that are versions. -/
def ofTexts (texts : List (Option String)) : Counts :=
  texts.foldl
    (fun counts text =>
      match text.bind Version.parse? with
      | some version => counts.add version 1
      | none => counts)
    []

/-- Each version and its count in one list. -/
def toJson (counts : Counts) : Json :=
  .array (counts.map fun (version, n) => .array (version.numbers ++ [.integer n]))

end Counts

/-- A kind of objects in a namespace. -/
structure Scope where
  kind : String
  space : String
deriving DecidableEq, Repr

/-- What was last seen in every namespace where something was seen. -/
abbrev VersionsInUse := List (Scope × Counts)

namespace VersionsInUse

/-- The counts last seen in a scope. -/
def last (inUse : VersionsInUse) (scope : Scope) : Counts := (List.lookup scope inUse).getD []

/-- The scope with new counts. A scope without any is forgotten. -/
def set (inUse : VersionsInUse) (scope : Scope) (counts : Counts) : VersionsInUse :=
  let others := inUse.filter fun entry => entry.1 != scope
  if counts.isEmpty then others else (scope, counts) :: others

/-- The counts of a kind over all namespaces. -/
def totals (inUse : VersionsInUse) (kind : String) : Counts :=
  inUse.foldl (fun sum entry => if entry.1.kind == kind then sum.plus entry.2 else sum) []

/-- The counts to report after a look at a scope: the totals of its kind, and nought for
versions that were last seen there and are nowhere now. -/
def reported (before after : VersionsInUse) (scope : Scope) : Counts :=
  (after.totals scope.kind).plus ((before.last scope).map fun entry => (entry.1, 0))

end VersionsInUse

end GuestFleet.Metrics
