import GuestFleet.Json.Basic

/-!
# Merge patches

A merge patch (RFC 7386) is a value that says how another value changes: null takes a
member away, an object changes the member it stands for, and everything else replaces
it.
-/

namespace GuestFleet.Json

/-- The members of an object; no members for any other value. -/
def membersOf : Json -> Members
  | .object members => members
  | _ => []

mutual

/-- The value after a patch. -/
def patched (target : Json) : Json -> Json
  | .object entries => .object (patchedMembers target.membersOf entries)
  | other => other

/-- The members after the members of a patch, one after the other. -/
def patchedMembers (members : Members) : List (String × Json) -> Members
  | [] => members
  | (key, change) :: entries =>
    if change.isNull then patchedMembers (Members.erase key members) entries
    else
      let before := (Members.find members key).getD .null
      patchedMembers (Members.insert key (patched before change) members) entries

end

end GuestFleet.Json
