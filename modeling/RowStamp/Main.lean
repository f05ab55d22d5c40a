import RowStamp.Cli.Command
import Std.Time.Zoned

/-!
The program: takes the arguments, the input where the statement comes from there, and the time, and
prints the outcome.
-/

set_option autoImplicit false
set_option relaxedAutoImplicit false

namespace RowStamp.Cli

def currentTime : IO Timestamp := do
  let now ← Std.Time.PlainDateTime.now
  let date : Date := ⟨now.date.year.toInt, now.date.month.val.toNat, now.date.day.val.toNat⟩
  return .ofWallTime ⟨date, now.time.hour.val.toNat, now.time.minute.val.toNat,
    now.time.second.val.toNat, now.time.nanosecond.val.toNat⟩

def readInput : IO (Option String) := do
  return String.fromUTF8? (← (← IO.getStdin).readBinToEnd)

def readsInput (args : List String) : Bool :=
  match Arguments.read args with
  | .ok args => (Command.ofArguments args).readsInput
  | .error _ => false

end RowStamp.Cli

open RowStamp.Cli in
def main (args : List String) : IO UInt32 := do
  let input ← if readsInput args then readInput else pure none
  let outcome := Outcome.ofArguments args input (← currentTime)
  IO.print outcome.stdout
  IO.eprint outcome.stderr
  return outcome.exit.toUInt32
