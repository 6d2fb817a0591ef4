import GuestFleet.Failure

/-!
# Version bundles

Every cluster names the version of the bundle that it was made for, and is looked after
by what is registered for exactly that version.
-/

namespace GuestFleet

/-- What is registered for each version, the versions in increasing order. -/
abbrev VersionTable (α : Type) := List (String × α)

namespace VersionTable

/-- Entries with one more in its place in the order. -/
def place (version : String) (value : α) : VersionTable α -> VersionTable α
  | [] => [(version, value)]
  | (v, x) :: rest =>
    if version < v then (version, value) :: (v, x) :: rest else (v, x) :: place version value rest

/-- The table with one more version, which must not be registered yet. -/
def register (table : VersionTable α) (version : String) (value : α) :
    Except Failure (VersionTable α) :=
  if (List.lookup version table).isSome then
    .error (.invalidConfig (.registeredTwice version))
  else .ok (place version value table)

/-- The registered versions in increasing order. -/
def versions (table : VersionTable α) : List String := table.map Prod.fst

/-- What is registered for a version. There is no falling back to another one. -/
def resolve (table : VersionTable α) (version : String) : Except Failure α :=
  match List.lookup version table with
  | some value => .ok value
  | none => .error (.invalidVersionBundle version)

end VersionTable

end GuestFleet
