import RowStamp.Calendar
import RowStamp.Sql.Expr

/-!
The time that is stamped, as the text of a string literal, and the clock that it is read from.
-/

set_option autoImplicit false
set_option relaxedAutoImplicit false

namespace RowStamp

structure Timestamp where
  text : String
  deriving DecidableEq, Repr

namespace Timestamp

def ofWallTime (time : WallTime) : Timestamp := ⟨time.text⟩

def expr (time : Timestamp) : Sql.Expr := .literal (.quoted time.text)

def display (time : Timestamp) : String := "'" ++ time.text ++ "'"

end Timestamp

/-- The times that a clock tells, by the number of readings before. -/
abbrev Clock := Nat → Timestamp

namespace Clock

def read (clock : Clock) : StateM Nat Timestamp := fun readings => (clock readings, readings + 1)

def fixed (time : Timestamp) : Clock := fun _ => time

/-- Times in turn, from the start again after the last one; one time where there are none. -/
def cycle (standard : Timestamp) (times : List Timestamp) : Clock := fun n =>
  (times[n % times.length]?).getD standard

end Clock

end RowStamp
