/-!
# Quadlets and their fields

A register of the card is a quadlet: a word of 32 bits. Parameters are packed into fields of
it. `Quadlet.flag` and `Quadlet.place` build a quadlet from one field, which `|||` joins;
`BitVec.getLsbD` and `Quadlet.slice` read a field back. Numbers of 14 bits are stored as two
groups of seven bits with the topmost bit of each byte left out (`Quadlet.placeSplit`,
`Quadlet.splitSlice`).

The `getLsbD_` lemmas give each bit of what is built and of what is read, so that two quadlets
made of these pieces are compared bit by bit.
-/

namespace TimecodeCard

/-- A register's word. -/
abbrev Quadlet := BitVec 32

namespace Quadlet

/-! ## Building -/

/-- The quadlet with the field at the given distance from the lowest bit. -/
def place {width : Nat} (shift : Nat) (field : BitVec width) : Quadlet :=
  field.setWidth 32 <<< shift

/-- The quadlet with the one bit set, if the flag is. -/
def flag (bit : Nat) (b : Bool) : Quadlet :=
  place bit (BitVec.ofBool b)

/-- The quadlet with a number of 14 bits in the lower seven bits of two bytes. -/
def placeSplit (shift : Nat) (number : BitVec 14) : Quadlet :=
  place shift (number.extractLsb' 0 7) ||| place (shift + 8) (number.extractLsb' 7 7)

/-- The quadlet with the one bit set or cleared, and any other bit kept. -/
def withBit (bit : Nat) (b : Bool) (q : Quadlet) : Quadlet :=
  (q &&& ~~~flag bit true) ||| flag bit b

/-! ## Reading -/

/-- The field of the quadlet at the given distance from the lowest bit. -/
def slice (shift width : Nat) (q : Quadlet) : BitVec width :=
  q.extractLsb' shift width

/-- The number of 14 bits in the lower seven bits of two bytes. -/
def splitSlice (shift : Nat) (q : Quadlet) : BitVec 14 :=
  slice (shift + 8) 7 q ++ slice shift 7 q

/-! ## Bits of a built field -/

theorem getLsbD_place {width shift i : Nat} {field : BitVec width} (hi : i < 32) :
    (place shift field).getLsbD i = (decide (shift ≤ i) && field.getLsbD (i - shift)) := by
  by_cases h : shift ≤ i
  · simp [place, hi, h, show ¬ i < shift by omega]
  · simp [place, hi, h, show i < shift by omega]

theorem getLsbD_flag {bit i : Nat} {b : Bool} (hi : i < 32) :
    (flag bit b).getLsbD i = (decide (i = bit) && b) := by
  rw [flag, getLsbD_place hi, BitVec.getLsbD_ofBool]
  by_cases h : i = bit
  · simp [h]
  · by_cases hle : bit ≤ i
    · simp [h, show ¬ i - bit = 0 by omega]
    · simp [h, hle]

theorem getLsbD_slice {shift width i : Nat} {q : Quadlet} :
    (q.slice shift width).getLsbD i = (decide (i < width) && q.getLsbD (shift + i)) := by
  simp [slice]

/-- The field with the bits of the quadlet is the one read. -/
theorem slice_eq {shift width : Nat} {q : Quadlet} {field : BitVec width}
    (h : ∀ i < width, q.getLsbD (shift + i) = field.getLsbD i) : q.slice shift width = field := by
  refine BitVec.eq_of_getLsbD_eq fun i hi => ?_
  rw [getLsbD_slice, h i hi, decide_eq_true hi, Bool.true_and]

theorem getLsbD_withBit {bit i : Nat} {b : Bool} {q : Quadlet} (hi : i < 32) :
    (q.withBit bit b).getLsbD i = if i = bit then b else q.getLsbD i := by
  simp only [withBit, BitVec.getLsbD_or, BitVec.getLsbD_and, BitVec.getLsbD_not, hi,
    getLsbD_flag hi]
  by_cases h : i = bit <;> simp [h]

theorem getLsbD_placeSplit {shift i : Nat} {number : BitVec 14} (hi : i < 32) :
    (placeSplit shift number).getLsbD i
      = (decide (shift ≤ i ∧ i < shift + 7) && number.getLsbD (i - shift)
        || decide (shift + 8 ≤ i ∧ i < shift + 15) && number.getLsbD (i - shift - 1)) := by
  rw [placeSplit, BitVec.getLsbD_or, getLsbD_place hi, getLsbD_place hi,
    BitVec.getLsbD_extractLsb', BitVec.getLsbD_extractLsb']
  grind

theorem getLsbD_splitSlice {shift i : Nat} {q : Quadlet} :
    (q.splitSlice shift).getLsbD i
      = (decide (i < 14) && q.getLsbD (if i < 7 then shift + i else shift + i + 1)) := by
  rw [splitSlice, BitVec.getLsbD_append, getLsbD_slice, getLsbD_slice]
  grind

/-- The number with the fourteen bits of both bytes is the one read. -/
theorem splitSlice_eq {shift : Nat} {q : Quadlet} {number : BitVec 14}
    (h : ∀ i < 14, q.getLsbD (if i < 7 then shift + i else shift + i + 1) = number.getLsbD i) :
    q.splitSlice shift = number := by
  refine BitVec.eq_of_getLsbD_eq fun i hi => ?_
  rw [getLsbD_splitSlice, h i hi, decide_eq_true hi, Bool.true_and]

end Quadlet

end TimecodeCard
