/-!
Sets of code points written as the sorted list of the points where membership changes: a point
is in the set when an odd number of changes lies at or below it.  The long tables of this library
are written as texts, each change as its base-36 distance from the change before it.
-/

set_option autoImplicit false
set_option relaxedAutoImplicit false

namespace RowStamp.Text.Runs

def digit (c : Char) : Nat :=
  if c.isDigit then c.toNat - '0'.toNat else c.toNat - 'a'.toNat + 10

/-- The changes written in a text, after the change `last` and the digits read so far. -/
def changesFrom (last distance : Nat) : List Char → List Nat
  | [] => [last + distance]
  | c :: rest =>
    if c = ' ' then (last + distance) :: changesFrom (last + distance) 0 rest
    else changesFrom last (distance * 36 + digit c) rest

def ofLines (lines : List String) : List Nat :=
  changesFrom 0 0 (" ".intercalate lines).toList

/-- A code point is inside when an odd number of changes is at or below it. -/
def mem (changes : List Nat) (n : Nat) : Bool :=
  changes.foldl (fun inside change => if change ≤ n then !inside else inside) false

end RowStamp.Text.Runs
