import TimecodeCard.Word
import TimecodeCard.Card.Model

/-!
# Position of the audio stream

The hardware pointer counts frames but wraps around at `pointerSpan`. `Position` extends it to
an absolute count: an update to a lower pointer means one more turn. The absolute position is
published rounded down to the start of the period in force.

The position is exact as long as it is updated at least once per turn of the pointer, and
lengths of period and buffer are powers of two.
-/

namespace TimecodeCard

/-- Absolute position of the audio stream at the last update. -/
structure Position where
  /-- The hardware pointer at the last update. -/
  pointer : Nat := 0
  /-- How often the pointer has wrapped around. -/
  turns : Nat := 0
  /-- The absolute position, at the start of a period. -/
  frames : Nat := 0
  /-- The number of frames per period. -/
  periodSize : Nat
  /-- The number of frames in the hardware buffer. -/
  bufferSize : Nat
  deriving DecidableEq, Repr

namespace Position

/-- The position with other lengths of period and buffer; it moves with the next update only. -/
def resize (p : Position) (periodSize bufferSize : Nat) : Position :=
  { p with periodSize, bufferSize }

/-- The pointer with the bits below the period's length cleared. -/
def alignDown (pointer periodSize : Nat) : Except Fault Nat := do
  let low ← Word.minus periodSize 1
  return pointer &&& (0x100000000 - (low + 1))

/-- The number of turns when the pointer, within its span, is read. -/
def turnsAt (p : Position) (pointer : Nat) : Except Fault Nat :=
  if pointer < p.pointer then Word.fit64 (p.turns + 1) else .ok p.turns

/-- The position after the hardware pointer is read. -/
def update (p : Position) (pointer : Nat) : Except Fault Position := do
  let turns ← p.turnsAt (pointer % pointerSpan)
  let aligned ← alignDown (pointer % pointerSpan) p.periodSize
  let start ← Word.fit64 (turns * pointerSpan)
  let frames ← Word.fit64 (start + aligned)
  return { p with pointer := pointer % pointerSpan, turns, frames }

/-- What an update comes to: the position is published from the turns and a pointer rounded
down. -/
theorem exists_of_update {p q : Position} {pointer : Nat} (h : p.update pointer = .ok q) :
    ∃ turns aligned, q = { p with
      pointer := pointer % pointerSpan, turns, frames := turns * pointerSpan + aligned } := by
  obtain ⟨turns, -, h⟩ := exists_of_bind_eq_ok h
  obtain ⟨aligned, -, h⟩ := exists_of_bind_eq_ok h
  obtain ⟨start, hstart, h⟩ := exists_of_bind_eq_ok h
  obtain ⟨frames, hframes, h⟩ := exists_of_bind_eq_ok h
  obtain ⟨-, rfl⟩ := Word.fit64_eq_ok_iff.mp hstart
  obtain ⟨-, rfl⟩ := Word.fit64_eq_ok_iff.mp hframes
  exact ⟨turns, aligned, (Except.ok.inj h).symm⟩

/-- The hardware pointer within the hardware buffer, at the last update. -/
def bufferPointer (p : Position) : Except Fault Nat := do
  let mask ← Word.minus p.bufferSize 1
  return p.pointer &&& mask % 0x10000

end Position

end TimecodeCard
