import TimecodeCard.Word

/-!
# Window of recent durations

The speed of the time code input is judged by the durations of its 16 newest frames. `Window`
keeps them in a ring, together with their running total and the count of all durations ever
recorded: a new duration takes the place of the oldest one, in the ring and in the total.

`Window.pullFactor` is the speed over the nominal one, per mille, by the average of the window.
-/

namespace TimecodeCard.Ltc

/-- The ring of the newest durations, in nanoseconds. -/
structure Window where
  /-- The durations; number `n` of all is in slot `n` modulo 16. -/
  slots : Vector Nat 16 := Vector.replicate 16 0
  /-- The sum of the slots. -/
  total : Nat := 0
  /-- The number of durations ever recorded. -/
  count : Nat := 0
  deriving DecidableEq, Repr

instance : Inhabited Window := ⟨{}⟩

/-- The pull factor at nominal speed. -/
def nominalPull : Nat := 1000

namespace Window

/-- The window after one more duration. -/
def record (w : Window) (duration : Nat) : Except Fault Window := do
  have slot : w.count % 16 < 16 := Nat.mod_lt _ (by decide)
  let kept ← Word.minus w.total w.slots[w.count % 16]
  let total ← Word.fit64 (kept + duration)
  let count ← Word.fit64 (w.count + 1)
  return { slots := w.slots.set (w.count % 16) duration, total, count }

/-- The real speed over the nominal one, per mille. Without any duration, or for a rate of zero
frames, or for frames shorter than a microsecond, it is nominal. -/
def pullFactor (w : Window) (fps : Nat) : Nat :=
  let count := min w.count 16
  let microseconds := w.total / count / 1000
  if count = 0 ∨ fps = 0 ∨ microseconds = 0 then nominalPull
  else min ((1000000000 / microseconds + fps / 2) / fps) 65535

end Window

end TimecodeCard.Ltc
