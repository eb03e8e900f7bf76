/-!
# Packed time code

A time code is four fields of two decimal digits each, packed into a word of 32 bits: frames
in byte 0, seconds in byte 1, minutes in byte 2, hours in byte 3. Each byte keeps the tens in
its upper half and the units in its lower half, and hardware takes the topmost bits for its
own purposes: frames and hours use six bits, seconds and minutes seven.

`TimeCode.fields` unpacks any word at all, also one with digits above nine, and
`TimeCode.ofFields` packs any four numbers, of which it keeps what a byte and the field's
bits hold. On times of a day they are inverse: `fields_ofFields`.
-/

namespace TimecodeCard

/-! ## Fields -/

/-- The four fields of a time code. -/
structure Fields where
  hours : Nat
  minutes : Nat
  seconds : Nat
  frames : Nat
  deriving DecidableEq, Repr

/-- The byte with the two decimal digits of the number. -/
def digits (n : Nat) : Nat :=
  n / 10 * 16 + n % 10

/-- The number with the two decimal digits of the byte. -/
def ofDigits (b : Nat) : Nat :=
  b / 16 * 10 + b % 16

theorem ofDigits_digits (n : Nat) : ofDigits (digits n) = n := by
  unfold ofDigits digits
  omega

/-! ## Packing -/

/-- Time code packed into a word. -/
structure TimeCode where
  code : BitVec 32
  deriving DecidableEq, Repr, Inhabited

namespace TimeCode

/-- The word for "no time code". -/
def absent : TimeCode := ⟨0xffffffff⟩

/-- The word which asks for the time of the real time clock: every bit of each field is set. -/
def wallClock : TimeCode := ⟨0x3f7f7f3f⟩

/-- The bits of the hours field. -/
def hoursByte (t : TimeCode) : Nat := t.code.toNat / 0x1000000 % 0x40

/-- The bits of the minutes field. -/
def minutesByte (t : TimeCode) : Nat := t.code.toNat / 0x10000 % 0x80

/-- The bits of the seconds field. -/
def secondsByte (t : TimeCode) : Nat := t.code.toNat / 0x100 % 0x80

/-- The bits of the frames field. -/
def framesByte (t : TimeCode) : Nat := t.code.toNat % 0x40

/-- The four fields of the word. -/
def fields (t : TimeCode) : Fields where
  hours := ofDigits t.hoursByte
  minutes := ofDigits t.minutesByte
  seconds := ofDigits t.secondsByte
  frames := ofDigits t.framesByte

/-- The word of the four fields, each cut to a byte before its digits are taken. -/
def ofFields (f : Fields) : TimeCode where
  code := BitVec.ofNat 32 <|
    digits (f.hours % 0x100) % 0x40 * 0x1000000
      + digits (f.minutes % 0x100) % 0x80 * 0x10000
      + digits (f.seconds % 0x100) % 0x80 * 0x100
      + digits (f.frames % 0x100) % 0x40

/-- Whether the word stands for "no time code". -/
def IsAbsent (t : TimeCode) : Prop :=
  t = absent

instance (t : TimeCode) : Decidable t.IsAbsent :=
  inferInstanceAs (Decidable (_ = _))

/-- Whether the word asks for the time of the real time clock, whatever the bits of hardware
are. -/
def IsWallClock (t : TimeCode) : Prop :=
  t.code &&& wallClock.code = wallClock.code

instance (t : TimeCode) : Decidable t.IsWallClock :=
  inferInstanceAs (Decidable (_ = _))

/-! ## Packing and unpacking a time of day -/

/-- The bytes of a word packed from four numbers which fit their fields. -/
private theorem bytes_eq {h m s f : Nat} (hh : h < 0x40) (hm : m < 0x80) (hs : s < 0x80)
    (hf : f < 0x40) :
    let n := (BitVec.ofNat 32 (h * 0x1000000 + m * 0x10000 + s * 0x100 + f)).toNat
    n / 0x1000000 % 0x40 = h ∧ n / 0x10000 % 0x80 = m
      ∧ n / 0x100 % 0x80 = s ∧ n % 0x40 = f := by
  simp only [BitVec.toNat_ofNat]
  omega

private theorem digits_cut {n b : Nat} (hn : n < 0x100) (hb : digits n < b) :
    digits (n % 0x100) % b = digits n := by
  rw [Nat.mod_eq_of_lt hn, Nat.mod_eq_of_lt hb]

theorem fields_ofFields {f : Fields} (hh : f.hours < 40) (hm : f.minutes < 80)
    (hs : f.seconds < 80) (hf : f.frames < 40) : (ofFields f).fields = f := by
  have hours : digits f.hours < 0x40 := by unfold digits; omega
  have minutes : digits f.minutes < 0x80 := by unfold digits; omega
  have seconds : digits f.seconds < 0x80 := by unfold digits; omega
  have frames : digits f.frames < 0x40 := by unfold digits; omega
  obtain ⟨eh, em, es, ef⟩ := bytes_eq hours minutes seconds frames
  simp only [fields, ofFields, hoursByte, minutesByte, secondsByte, framesByte,
    digits_cut (by omega : f.hours < 0x100) hours,
    digits_cut (by omega : f.minutes < 0x100) minutes,
    digits_cut (by omega : f.seconds < 0x100) seconds,
    digits_cut (by omega : f.frames < 0x100) frames, eh, em, es, ef, ofDigits_digits]

end TimeCode

end TimecodeCard
