import TimecodeCard.TimeCode.Basic
import TimecodeCard.TimeCode.Rate

/-!
# Stepping time code by one frame

`Fields.next` and `Fields.prev` carry through frames, seconds, minutes and hours, and roll
over at 24 hours. Drop frame counting has no use for the numbers they may land on, so
`Counting.settleAhead` and `Counting.settleBack` step on until the number is one that is
shown (`Counting.Drops`). `TimeCode.increment` and `TimeCode.decrement` do both on the packed
word, whatever it holds.

`TimeCode.IsValid` says that a word is one that the counting shows. `TimeCode.steps` repeats
the step, forward or backward.
-/

namespace TimecodeCard

/-! ## Carrying -/

namespace Fields

/-- The fields one frame later, with the number of frames in a second. -/
def next (modulus : Nat) (f : Fields) : Fields :=
  if f.frames + 1 < modulus then
    { f with frames := f.frames + 1 }
  else if f.seconds + 1 < 60 then
    { f with seconds := f.seconds + 1, frames := 0 }
  else if f.minutes + 1 < 60 then
    { f with minutes := f.minutes + 1, seconds := 0, frames := 0 }
  else
    { hours := if f.hours + 1 < 24 then f.hours + 1 else 0
      minutes := 0
      seconds := 0
      frames := 0 }

/-- The fields one frame earlier, with the number of frames in a second. Frames beyond the
second fall back to its last one. -/
def prev (modulus : Nat) (f : Fields) : Fields :=
  if 0 < f.frames then
    { f with frames := min (f.frames - 1) (modulus - 1) }
  else if 0 < f.seconds then
    { f with seconds := f.seconds - 1, frames := modulus - 1 }
  else if 0 < f.minutes then
    { f with minutes := f.minutes - 1, seconds := 59, frames := modulus - 1 }
  else
    { hours := if 0 < f.hours then f.hours - 1 else 23
      minutes := 59
      seconds := 59
      frames := modulus - 1 }

end Fields

/-! ## Dropped numbers -/

namespace Counting

/-- Whether the counting leaves out the number: frames 0 and 1 at the start of a minute, except
for every tenth minute. -/
def Drops (c : Counting) (f : Fields) : Prop :=
  c.Skips ∧ f.seconds = 0 ∧ f.frames < 2 ∧ 0 < f.minutes % 10

instance (c : Counting) (f : Fields) : Decidable (c.Drops f) :=
  inferInstanceAs (Decidable (_ ∧ _))

theorem Skips.modulus_eq {c : Counting} (h : c.Skips) : c.modulus = 30 := by
  simp [modulus, h.2]

theorem Drops.frames_next {c : Counting} {f : Fields} (h : c.Drops f) :
    (f.next c.modulus).frames = f.frames + 1 := by
  obtain ⟨hskip, -, hframes, -⟩ := h
  simp only [Fields.next, hskip.modulus_eq]
  rw [if_pos (by omega)]

theorem Drops.prev_lt {c : Counting} {f : Fields} (h : c.Drops f) :
    (if (f.prev c.modulus).seconds = 0 then (f.prev c.modulus).frames + 1 else 0)
      < if f.seconds = 0 then f.frames + 1 else 0 := by
  obtain ⟨hskip, hseconds, hframes, hminutes⟩ := h
  simp only [Fields.prev, hskip.modulus_eq]
  grind

/-- The first number from here on which the counting shows. -/
def settleAhead (c : Counting) (f : Fields) : Fields :=
  if _h : c.Drops f then c.settleAhead (f.next c.modulus) else f
  termination_by 2 - f.frames
  decreasing_by
    have hframes := Drops.frames_next _h
    have hlt := _h.2.2.1
    omega

/-- The last number up to here which the counting shows. -/
def settleBack (c : Counting) (f : Fields) : Fields :=
  if _h : c.Drops f then c.settleBack (f.prev c.modulus) else f
  termination_by if f.seconds = 0 then f.frames + 1 else 0
  decreasing_by exact Drops.prev_lt _h

end Counting

/-! ## Stepping the packed word -/

namespace TimeCode

/-- The next time code. It rolls over at 24 hours. -/
def increment (c : Counting) (t : TimeCode) : TimeCode :=
  ofFields (c.settleAhead (t.fields.next c.modulus))

/-- The previous time code. It rolls back at 0 hours. -/
def decrement (c : Counting) (t : TimeCode) : TimeCode :=
  ofFields (c.settleBack (t.fields.prev c.modulus))

/-- The time code after so many single steps, backward if the number is negative. -/
def steps (c : Counting) : Int → TimeCode → TimeCode
  | .ofNat n, t => Nat.repeat (increment c) n t
  | .negSucc n, t => Nat.repeat (decrement c) (n + 1) t

/-- The time codes after each of so many applications of the step. -/
def trail (step : TimeCode → TimeCode) : Nat → TimeCode → List TimeCode
  | 0, _ => []
  | n + 1, t =>
    let u := step t
    u :: trail step n u

/-- The time codes on the way of so many single steps, the last one included. -/
def walk (c : Counting) : Int → TimeCode → List TimeCode
  | .ofNat n, t => trail (increment c) n t
  | .negSucc n, t => trail (decrement c) (n + 1) t

/-- Whether the word is a time of day which the counting shows, with every other bit clear. -/
def IsValid (c : Counting) (t : TimeCode) : Prop :=
  t.fields.hours < 24 ∧ t.fields.minutes < 60 ∧ t.fields.seconds < 60
    ∧ t.fields.frames < c.modulus ∧ ¬ c.Drops t.fields ∧ ofFields t.fields = t

instance (c : Counting) (t : TimeCode) : Decidable (t.IsValid c) :=
  inferInstanceAs (Decidable (_ ∧ _))

end TimeCode

end TimecodeCard
