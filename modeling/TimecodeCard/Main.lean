import Mathlib.Tactic
import TimecodeCard.Program

/-!
# Entry point

The call of the program takes the real time from the host, waits if periods are to take their real
time, and writes what `Program.run` says.
-/

namespace TimecodeCard.Program

/-- The real time of the host, in nanoseconds since the epoch in a word of 64 bits. Before the epoch
it stands still. -/
def hostTime : IO Nat := do
  let now ← Std.Time.Timestamp.now
  return now.toNanosecondsSinceUnixEpoch.val.toNat % 0x10000000000000000

end TimecodeCard.Program

/-- Runs one session as the arguments say. -/
def main (arguments : List String) : IO UInt32 := do
  let now ← TimecodeCard.Program.hostTime
  let ending := TimecodeCard.Program.run arguments now
  IO.sleep (TimecodeCard.Program.waitMillis arguments ending).toUInt32
  for line in ending.output do
    IO.println line
  if let some message := ending.error? then
    IO.eprintln message
  return ending.exitCode.toUInt32
