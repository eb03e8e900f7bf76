import Mathlib.Tactic
import TimecodeCard.Card.Control
import TimecodeCard.Card.Status
import TimecodeCard.Ltc.Tracker

/-!
# What the control bank holds

A `Recorded` device knows what was last written at each offset. `Tco.Access.held?` is that for a
quadlet of the control bank of the time code module.

The lemmas say what each access does to the bank: reads and writes to other registers leave it
alone, and the writes of `Tco.Access` set the quadlets which they name and no other.
-/

namespace TimecodeCard

variable {δ : Type} [Device δ]

/-! ## Single accesses -/

namespace Recorded

lemma lastWritten?_write (r : Recorded δ) (offset other : Nat) (q : Quadlet) :
    (Device.write r offset q).lastWritten? other
      = if other = offset then some q else r.lastWritten? other := by
  show ((offset, q) :: r.writeLog).lookup other = _
  rw [List.lookup_cons]
  by_cases h : other = offset
  · rw [if_pos h, h, beq_self_eq_true]
  · rw [if_neg h, beq_false_of_ne h]
    rfl

end Recorded

namespace Tco.Access

/-- The quadlet last written to the control bank under the number. -/
def held? (r : Recorded δ) (n : Nat) : Option Quadlet :=
  r.lastWritten? (writeOffset n)

variable {r : Recorded δ} {n : Nat}

lemma held?_write_of_lt {offset : Nat} (hoffset : offset < 128) (q : Quadlet) :
    held? (Device.write r offset q) n = held? r n := by
  have hne : writeOffset n ≠ offset := by
    unfold writeOffset
    omega
  rw [held?, Recorded.lastWritten?_write, if_neg hne, held?]

lemma held?_write (k : Nat) (q : Quadlet) :
    held? (write r k q) n = if n = k then some (writable q) else held? r n := by
  have hoffset : writeOffset n = writeOffset k ↔ n = k := by
    unfold writeOffset
    omega
  rw [held?, write, Recorded.lastWritten?_write, held?]
  simp only [hoffset]

@[simp] lemma held?_write_self (k : Nat) (q : Quadlet) :
    held? (write r k q) k = some (writable q) := by
  rw [held?_write, if_pos rfl]

lemma held?_write_of_ne {k : Nat} (h : n ≠ k) (q : Quadlet) :
    held? (write r k q) n = held? r n := by
  rw [held?_write, if_neg h]

/-! ## Whole operations -/

@[simp] lemma held?_control (control : Control) : held? (control.write r) n = held? r n :=
  held?_write_of_lt (by decide) _

@[simp] lemma held?_confirm : held? (CardStatus.confirm r) n = held? r n :=
  held?_write_of_lt (by decide) _

@[simp] lemma held?_cardStatus : held? (CardStatus.read r).2 n = held? r n := rfl

@[simp] lemma held?_readStatus : held? (readStatus r).2 n = held? r n := rfl

/-- Tracking the input reads only. -/
@[simp] lemma writeLog_trackerPeriod (t : Ltc.Tracker) (frames speed : Nat) :
    (t.period r frames speed).2.2.writeLog = r.writeLog := by
  unfold Ltc.Tracker.period
  split
  · simp only [readTimeCode]
    split <;> rfl
  · rfl

@[simp] lemma held?_trackerPeriod (t : Ltc.Tracker) (frames speed : Nat) :
    held? (t.period r frames speed).2.2 n = held? r n :=
  congrArg (List.lookup (writeOffset n)) (writeLog_trackerPeriod t frames speed)

lemma held?_writeBank (b : Bank) (hn : n ≤ 3) :
    held? (writeBank r b) n = some (writable (b.get n)) := by
  rw [writeBank]
  simp only [held?_write]
  interval_cases n <;> rfl

end Tco.Access

end TimecodeCard
