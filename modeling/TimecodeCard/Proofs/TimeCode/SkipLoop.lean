import Mathlib.Tactic
import TimecodeCard.TimeCode.Step
import TimecodeCard.Word

/-!
# The loop over numbers which are left out

A step of the time code goes on as long as it lands on a number which the counting leaves out. On
the interrupt path this happens to words as hardware has them: with digits above nine, with fields
beyond the day, with numbers that are themselves left out, and at any frame rate. `Counting.settleAhead`
and `Counting.settleBack` compute on unbounded numbers, where subtraction stops at zero, and so they
neither count their steps nor notice one that leaves its word.

Here the loop is taken as it runs. `Fields.next?` and `Fields.prev?` are its steps in words of 32
bits, which fault when a sum or a difference does not fit, and `Counting.stepWithin` is the loop
around a step, given up after a number of steps. `TimeCode.step_within_three` says that three steps
are enough for every word and every counting, in both directions.

Forward, only frame numbers 0 and 1 are left out, so the measure is the distance to frame 2. Backward
the loop leaves the minute as soon as it passes frame 0, so there it is the frame number itself.
-/

namespace TimecodeCard

variable {c : Counting} {f g : Fields} {modulus n : Nat}

/-! ## Steps in words -/

namespace Fields

/-- The fields one frame later, in words of 32 bits. -/
def next? (modulus : Nat) (f : Fields) : Except Fault Fields := do
  let frames ← Word.fit32 (f.frames + 1)
  if frames < modulus then return { f with frames }
  else
    let seconds ← Word.fit32 (f.seconds + 1)
    if seconds < 60 then return { f with seconds, frames := 0 }
    else
      let minutes ← Word.fit32 (f.minutes + 1)
      if minutes < 60 then return { f with minutes, seconds := 0, frames := 0 }
      else
        let hours ← Word.fit32 (f.hours + 1)
        return { hours := if hours < 24 then hours else 0, minutes := 0, seconds := 0, frames := 0 }

/-- The fields one frame earlier, in unsigned words. -/
def prev? (modulus : Nat) (f : Fields) : Except Fault Fields := do
  if 0 < f.frames then
    let frames ← Word.minus f.frames 1
    let last ← Word.minus modulus 1
    return { f with frames := min frames last }
  else
    let last ← Word.minus modulus 1
    if 0 < f.seconds then
      let seconds ← Word.minus f.seconds 1
      return { f with seconds, frames := last }
    else if 0 < f.minutes then
      let minutes ← Word.minus f.minutes 1
      return { f with minutes, seconds := 59, frames := last }
    else if 0 < f.hours then
      let hours ← Word.minus f.hours 1
      return { hours, minutes := 59, seconds := 59, frames := last }
    else return { hours := 23, minutes := 59, seconds := 59, frames := last }

lemma next?_eq_of_lt (hfit : f.frames + 1 < 2 ^ 32) (hlt : f.frames + 1 < modulus) :
    f.next? modulus = .ok (f.next modulus) := by
  have hframes : Word.fit32 (f.frames + 1) = .ok (f.frames + 1) :=
    Word.fit32_eq_ok_iff.mpr ⟨hfit, rfl⟩
  simp only [next?, next, hframes, bind, Except.bind, if_pos hlt]
  rfl

lemma next?_eq (hhours : f.hours + 1 < 2 ^ 32) (hminutes : f.minutes + 1 < 2 ^ 32)
    (hseconds : f.seconds + 1 < 2 ^ 32) (hframes : f.frames + 1 < 2 ^ 32) :
    f.next? modulus = .ok (f.next modulus) := by
  have hfit : ∀ n, n + 1 < 2 ^ 32 → Word.fit32 (n + 1) = .ok (n + 1) := fun _ h =>
    Word.fit32_eq_ok_iff.mpr ⟨h, rfl⟩
  simp only [next?, next, hfit _ hhours, hfit _ hminutes, hfit _ hseconds, hfit _ hframes, bind,
    Except.bind]
  split_ifs <;> rfl

/-- A step backward takes one away only where there is one. -/
lemma prev?_eq (hpos : 0 < modulus) (f : Fields) : f.prev? modulus = .ok (f.prev modulus) := by
  have hminus : ∀ n, 0 < n → Word.minus n 1 = .ok (n - 1) := fun _ h =>
    Word.minus_eq_ok_iff.mpr ⟨h, rfl⟩
  simp only [prev?, prev, hminus modulus hpos, bind, Except.bind]
  split_ifs with hframes hseconds hminutes hhours
  · rw [hminus _ hframes]
    rfl
  · rw [hminus _ hseconds]
    rfl
  · rw [hminus _ hminutes]
    rfl
  · rw [hminus _ hhours]
    rfl
  · rfl

end Fields

/-! ## The loop -/

namespace Counting

/-- The fields at which the loop is left: it steps, and again as long as the number is left out.
Nothing if it has not been left after so many steps. -/
def stepWithin (c : Counting) (step : Fields → Except Fault Fields) :
    Nat → Fields → Except Fault (Option Fields)
  | 0, _ => .ok none
  | n + 1, f => do
    let g ← step f
    if c.Drops g then c.stepWithin step n g else return some g

variable {step : Fields → Except Fault Fields}

lemma stepWithin_of_not_drops (hstep : step f = .ok g) (hshown : ¬ c.Drops g) :
    c.stepWithin step (n + 1) f = .ok (some g) := by
  simp only [stepWithin, hstep, bind, Except.bind, if_neg hshown]
  rfl

lemma stepWithin_of_drops (hstep : step f = .ok g) (hdrops : c.Drops g) :
    c.stepWithin step (n + 1) f = c.stepWithin step n g := by
  simp only [stepWithin, hstep, bind, Except.bind, if_pos hdrops]

/-- Whatever the step, the loop is left only at a number which is shown. -/
lemma not_drops_of_stepWithin (h : c.stepWithin step n f = .ok (some g)) : ¬ c.Drops g := by
  induction n generalizing f with
  | zero => exact nomatch h
  | succ n ih =>
      obtain ⟨f', hstep, -⟩ := exists_of_bind_eq_ok h
      by_cases hdrops : c.Drops f'
      · rw [stepWithin_of_drops hstep hdrops] at h
        exact ih h
      · rw [stepWithin_of_not_drops hstep hdrops] at h
        obtain rfl := Option.some.inj (Except.ok.inj h)
        exact hdrops

/-- Forward, the loop is left at the latest at frame 2. -/
lemma stepWithin_next? (hstep : f.next? c.modulus = .ok g)
    (hn : c.Drops g → 2 - g.frames ≤ n) :
    c.stepWithin (Fields.next? c.modulus) (n + 1) f = .ok (some (c.settleAhead g)) := by
  induction g using settleAhead.induct c generalizing f n with
  | case1 g hdrops ih =>
      have hlt := hdrops.2.2.1
      have hroom : g.frames + 1 < c.modulus := by
        rw [hdrops.1.modulus_eq]
        omega
      have hnext := Fields.next?_eq_of_lt (by omega) hroom
      obtain ⟨n, rfl⟩ := Nat.exists_eq_succ_of_ne_zero (by have := hn hdrops; omega : n ≠ 0)
      rw [settleAhead, dif_pos hdrops, stepWithin_of_drops hstep hdrops]
      refine ih hnext fun _ => ?_
      have hle := hn hdrops
      have hframes := hdrops.frames_next
      omega
  | case2 g hshown =>
      rw [settleAhead, dif_neg hshown]
      exact stepWithin_of_not_drops hstep hshown

/-- Backward, the loop is left at the latest when it has passed frame 0. -/
lemma stepWithin_prev? (hstep : f.prev? c.modulus = .ok g)
    (hn : c.Drops g → g.frames + 1 ≤ n) :
    c.stepWithin (Fields.prev? c.modulus) (n + 1) f = .ok (some (c.settleBack g)) := by
  induction g using settleBack.induct c generalizing f n with
  | case1 g hdrops ih =>
      obtain ⟨n, rfl⟩ := Nat.exists_eq_succ_of_ne_zero (by have := hn hdrops; omega : n ≠ 0)
      rw [settleBack, dif_pos hdrops, stepWithin_of_drops hstep hdrops]
      refine ih (Fields.prev?_eq c.modulus_pos g) fun hagain => ?_
      have hle := hn hdrops
      have hlt := hdrops.prev_lt
      rw [if_pos hagain.2.1, if_pos hdrops.2.1] at hlt
      omega
  | case2 g hshown =>
      rw [settleBack, dif_neg hshown]
      exact stepWithin_of_not_drops hstep hshown

end Counting

/-! ## Every word -/

namespace TimeCode

lemma ofDigits_lt {b : Nat} (hb : b < 0x80) : ofDigits b < 86 := by
  unfold ofDigits
  omega

lemma fields_lt (t : TimeCode) :
    t.fields.hours < 86 ∧ t.fields.minutes < 86 ∧ t.fields.seconds < 86 ∧ t.fields.frames < 86 :=
  ⟨ofDigits_lt ((Nat.mod_lt _ (by decide)).trans (by decide)),
    ofDigits_lt (Nat.mod_lt _ (by decide)), ofDigits_lt (Nat.mod_lt _ (by decide)),
    ofDigits_lt ((Nat.mod_lt _ (by decide)).trans (by decide))⟩

/-- **The loop ends.** From any word at all, with any counting, the loop of the step forward and that
of the step backward are left after at most three steps. No step leaves its word of 32 bits, the
loop is left at a number which the counting shows, and that number is packed. -/
theorem step_within_three (c : Counting) (t : TimeCode) :
    (∃ g, c.stepWithin (Fields.next? c.modulus) 3 t.fields = .ok (some g) ∧ ¬ c.Drops g
        ∧ t.increment c = ofFields g)
      ∧ ∃ g, c.stepWithin (Fields.prev? c.modulus) 3 t.fields = .ok (some g) ∧ ¬ c.Drops g
        ∧ t.decrement c = ofFields g := by
  obtain ⟨hhours, hminutes, hseconds, hframes⟩ := t.fields_lt
  have hnext : t.fields.next? c.modulus = .ok (t.fields.next c.modulus) :=
    Fields.next?_eq (by omega) (by omega) (by omega) (by omega)
  have hahead := Counting.stepWithin_next? (n := 2) hnext fun _ => Nat.sub_le _ _
  have hback := Counting.stepWithin_prev? (n := 2) (Fields.prev?_eq c.modulus_pos t.fields)
    fun hdrops => hdrops.2.2.1
  exact ⟨⟨_, hahead, Counting.not_drops_of_stepWithin hahead, rfl⟩,
    _, hback, Counting.not_drops_of_stepWithin hback, rfl⟩

/-- All three steps are taken forward over the start of a minute. -/
example :
    ({ fps := 30, dropFrame := true } : Counting).stepWithin (Fields.next? 30) 2 ⟨0, 0, 59, 29⟩
        = .ok none
      ∧ ({ fps := 30, dropFrame := true } : Counting).stepWithin (Fields.next? 30) 3 ⟨0, 0, 59, 29⟩
        = .ok (some ⟨0, 1, 0, 2⟩) := by
  decide

end TimeCode

end TimecodeCard
