/-!
# Similar texts

How much two texts are alike, by the characters that they share at almost the same
places and how many of those stand in another order, and the text out of some that a
mistyped one was most likely meant to be.
-/

namespace GuestFleet.Text

/-- Marks the first unmarked place from `low` on that holds a character; the places are
counted from `index`, and `room` of them are looked at. -/
def markMatch (c : Char) (low : Nat) :
    (index room : Nat) -> List (Char × Bool) -> Option (List (Char × Bool))
  | _, 0, _ => none
  | _, _, [] => none
  | index, room + 1, (d, marked) :: rest =>
    if low ≤ index && c == d && !marked then some ((d, true) :: rest)
    else (markMatch c low (index + 1) room rest).map ((d, marked) :: ·)

/-- The shared characters of a text in its own order, and the other text with the places
of the shared characters marked. -/
def sharedWith (range : Nat) : (index : Nat) -> List Char -> List (Char × Bool) ->
    List Char × List (Char × Bool)
  | _, [], other => ([], other)
  | index, c :: rest, other =>
    match markMatch c (index - range) 0 (index + range + 1) other with
    | some marked =>
      let (shared, final) := sharedWith range (index + 1) rest marked
      (c :: shared, final)
    | none => sharedWith range (index + 1) rest other

/-- How much two texts are alike, up to one: the mean of the shares of shared characters in
both and of the shared characters that stand in the same order. The quotients and sums are
rounded one after the other, so that texts may miss a bound by the rounding alone. -/
def likeness (a b : List Char) : Float :=
  let range := max a.length b.length / 2 - 1
  let (shared, marked) := sharedWith range 0 a (b.map fun c => (c, false))
  let counterpart := (marked.filter Prod.snd).map Prod.fst
  let moved := ((shared.zip counterpart).filter fun (c, d) => c != d).length / 2
  let n := shared.length
  if n = 0 then (if a.isEmpty && b.isEmpty then 1 else 0)
  else
    (n.toFloat / a.length.toFloat + n.toFloat / b.length.toFloat +
      (n.toFloat - moved.toFloat) / n.toFloat) / 3

/-- More than seven tenths are alike. -/
def isClose (likeness : Float) : Bool := decide (0.7 < likeness)

/-- The text that is most like a mistyped one, the last of them if there are several, and
none if all of them are too different. -/
def closest? (typed : String) (texts : List String) : Option String :=
  let candidates := texts.filterMap fun text =>
    let share := likeness typed.toList text.toList
    if isClose share then some (share, text) else none
  (candidates.foldl
    (fun (best : Option (Float × String)) candidate =>
      match best with
      | none => some candidate
      | some kept => if kept.1 ≤ candidate.1 then some candidate else some kept)
    none).map Prod.snd

end GuestFleet.Text
