import Mathlib.Tactic
import TimecodeCard.Tco.Access

/-!
# Single bits of what is written

Some operations change a bit of the cached control bank in place. On the encoding of a
configuration this is the same as changing the configuration and encoding it again:
`Config.withRun_encode`, `Config.withBaseRate_encode` and `Config.withoutRequest_encode`. Each
compares two quadlets bit by bit: away from the bit nothing differs, and at the bit no other
field stands.

A scheduled start goes into quadlets 0 and 1, where no bit of it is among those which hardware
keeps: `TimeCode.writable_ofFields` and `Access.splitSlice_withRequest`. On its way the offset is
cut to 32 and to 16 bits, of which the quadlet keeps 14 (`Access.withRequest_asSigned32`). Nothing
of it is left in a quadlet from which the request is withdrawn (`Access.splitSlice_withoutRequest`).
-/

namespace TimecodeCard.Tco

variable {c : Config} {q : Quadlet} {i : Nat}

/-! ## The writable part -/

lemma Access.getLsbD_writable (hi : i < 32) :
    (Access.writable q).getLsbD i = (q.getLsbD i && decide (i % 8 ≠ 7)) := by
  rw [Access.writable, BitVec.getLsbD_and]
  congr 1
  interval_cases i <;> decide

lemma Access.getLsbD_lowerHalf (hi : i < 32) :
    (0x0000ffff : Quadlet).getLsbD i = decide (i < 16) := by
  interval_cases i <;> decide

lemma Access.getLsbD_withoutRequest (q : Quadlet) (hi : i < 32) :
    (withoutRequest q).getLsbD i = (q.getLsbD i && decide (i < 16 ∧ i ≠ 8)) := by
  rw [withoutRequest, Quadlet.getLsbD_withBit hi, BitVec.getLsbD_and, getLsbD_lowerHalf hi]
  by_cases h : i = 8 <;> simp [h]

namespace Config

/-! ## Bits of the encoding -/

lemma getLsbD_encode_q1 (c : Config) (hi : i < 32) :
    c.encode.q1.getLsbD i
      = (decide (1 ≤ i) && c.outputSpeed.code.getLsbD (i - 1)
        || decide (i = 9) && c.dropFrame
        || decide (10 ≤ i) && c.rate.code.getLsbD (i - 10)) := by
  simp only [encode, BitVec.getLsbD_or, Quadlet.getLsbD_flag hi, Quadlet.getLsbD_place hi]

lemma getLsbD_encode_q2 (c : Config) (hi : i < 32) :
    c.encode.q2.getLsbD i
      = (decide (i = 16) && c.run
        || decide (17 ≤ i) && c.conversion.code.getLsbD (i - 17)
        || decide (i = 22) && c.flywheel
        || decide (24 ≤ i) && c.pull.code.getLsbD (i - 24)
        || decide (i = 27) && decide (c.sampleRate.base = .hz48000)
        || decide (i = 28) && c.termination
        || decide (29 ≤ i) && c.syncSource.code.getLsbD (i - 29)
        || decide (i = 31) && c.sampleRate.followsCard) := by
  simp only [encode, BitVec.getLsbD_or, Quadlet.getLsbD_flag hi, Quadlet.getLsbD_place hi]

lemma getLsbD_encode_run (c : Config) : c.encode.q2.getLsbD 16 = c.run := by
  rw [getLsbD_encode_q2 c (by decide)]
  simp

/-- The fields below bit 27 end before it. -/
lemma getLsbD_encode_base (c : Config) :
    c.encode.q2.getLsbD 27 = decide (c.sampleRate.base = .hz48000) := by
  rw [getLsbD_encode_q2 c (by decide)]
  simp

lemma getLsbD_encode_request (c : Config) (hi : i < 32) (hrequest : i = 8 ∨ 16 ≤ i) :
    c.encode.q1.getLsbD i = false := by
  have hspeed : c.outputSpeed.code.getLsbD (i - 1) = false :=
    BitVec.getLsbD_of_ge _ _ (by omega)
  have hrate : (decide (10 ≤ i) && c.rate.code.getLsbD (i - 10)) = false := by
    rcases hrequest with rfl | h
    · rfl
    · rw [BitVec.getLsbD_of_ge _ _ (by omega), Bool.and_false]
  rw [getLsbD_encode_q1 c hi, hspeed, hrate]
  simp [show i ≠ 9 by omega]

/-! ## Bits changed in place -/

lemma withRun_encode (c : Config) (run : Bool) :
    Access.withRun run c.encode.q2 = ({ c with run } : Config).encode.q2 := by
  refine BitVec.eq_of_getLsbD_eq fun i hi => ?_
  rw [Access.withRun, Quadlet.getLsbD_withBit hi]
  by_cases h : i = 16
  · rw [if_pos h, h, getLsbD_encode_run]
  · rw [if_neg h, getLsbD_encode_q2 c hi, getLsbD_encode_q2 _ hi]
    simp only [h, decide_false, Bool.false_and]

lemma withBaseRate_encode (hfollows : c.sampleRate.followsCard = true) (base : BaseRate) :
    Access.withBaseRate base c.encode.q2
      = ({ c with sampleRate := .ofCard base } : Config).encode.q2 := by
  refine BitVec.eq_of_getLsbD_eq fun i hi => ?_
  rw [Access.withBaseRate, Quadlet.getLsbD_withBit hi]
  by_cases h : i = 27
  · rw [if_pos h, h, getLsbD_encode_base]
    rfl
  · rw [if_neg h, getLsbD_encode_q2 c hi, getLsbD_encode_q2 _ hi]
    simp only [h, decide_false, Bool.false_and, hfollows]
    rfl

lemma withoutRequest_encode (c : Config) :
    Access.withoutRequest c.encode.q1 = c.encode.q1 := by
  refine BitVec.eq_of_getLsbD_eq fun i hi => ?_
  rw [Access.getLsbD_withoutRequest _ hi]
  by_cases h : i = 8 ∨ 16 ≤ i
  · rw [getLsbD_encode_request c hi h, Bool.false_and]
  · rw [decide_eq_true (by omega), Bool.and_true]

end Config

/-! ## A scheduled start -/

namespace Access

lemma setWidth_ofInt (x : Int) : (BitVec.ofInt 16 x).setWidth 14 = BitVec.ofInt 14 x := by
  apply BitVec.eq_of_toNat_eq
  rw [BitVec.toNat_setWidth, BitVec.toNat_ofInt, BitVec.toNat_ofInt]
  omega

/-- Of 32 bits, the quadlet keeps the lowest. -/
lemma withRequest_asSigned32 (q : Quadlet) (offset : Int) :
    withRequest q (Word.asSigned32 offset) = withRequest q offset := by
  have hlow : BitVec.ofInt 16 (Word.asSigned32 offset) = BitVec.ofInt 16 offset := by
    apply BitVec.eq_of_toNat_eq
    rw [BitVec.toNat_ofInt, BitVec.toNat_ofInt, Word.asSigned32,
      ← Int.emod_emod_of_dvd _ (by decide : ((2 ^ 16 : Nat) : Int) ∣ (0x100000000 : Nat)),
      Int.bmod_emod, Int.emod_emod_of_dvd _ (by decide)]
  rw [withRequest, hlow, withRequest]

lemma getLsbD_withRequest (q : Quadlet) (offset : Int) (hi : i < 32) :
    (withRequest q offset).getLsbD i
      = ((if i = 8 then true else q.getLsbD i && decide (i < 16))
        || (Quadlet.placeSplit 16 (BitVec.ofInt 14 offset)).getLsbD i) := by
  rw [withRequest, setWidth_ofInt, BitVec.getLsbD_or, Quadlet.getLsbD_withBit hi,
    BitVec.getLsbD_and, getLsbD_lowerHalf hi]

lemma request_withRequest (q : Quadlet) (offset : Int) :
    (writable (withRequest q offset)).getLsbD 8 = true := by
  rw [getLsbD_writable (by decide), getLsbD_withRequest q offset (by decide)]
  rfl

lemma splitSlice_withRequest (q : Quadlet) (offset : Int) :
    (writable (withRequest q offset)).splitSlice 16 = BitVec.ofInt 14 offset := by
  apply Quadlet.splitSlice_eq
  intro i hi
  have hlt : (if i < 7 then 16 + i else 16 + i + 1) < 32 := by split <;> omega
  rw [getLsbD_writable hlt, getLsbD_withRequest q offset hlt, Quadlet.getLsbD_placeSplit hlt]
  grind

lemma offset_decode_withRequest (q : Quadlet) (offset : Int) :
    ((Signals.decode (writable (withRequest q offset))).offset : Int) = offset % 0x4000 := by
  have hpos : 0 ≤ offset % 0x4000 := Int.emod_nonneg _ (by decide)
  show (((writable (withRequest q offset)).splitSlice 16).toNat : Int) = _
  rw [splitSlice_withRequest, BitVec.toNat_ofInt]
  exact Int.toNat_of_nonneg hpos

/-- The lower half of the quadlet is written as it is, apart from the set request. -/
lemma getLsbD_withRequest_of_lt (q : Quadlet) (offset : Int) (hlow : i < 16) (hne : i ≠ 8) :
    (writable (withRequest q offset)).getLsbD i = (writable q).getLsbD i := by
  have hi : i < 32 := by omega
  have hoffset : (Quadlet.placeSplit 16 (BitVec.ofInt 14 offset)).getLsbD i = false := by
    rw [Quadlet.getLsbD_placeSplit hi]
    simp [show ¬ 16 ≤ i by omega, show ¬ 24 ≤ i by omega]
  rw [getLsbD_writable hi, getLsbD_writable hi, getLsbD_withRequest q offset hi, if_neg hne,
    hoffset, decide_eq_true hlow, Bool.and_true, Bool.or_false]

/-! ## A withdrawn start -/

lemma request_withoutRequest (q : Quadlet) :
    (writable (withoutRequest q)).getLsbD 8 = false := by
  rw [getLsbD_writable (by decide), getLsbD_withoutRequest q (by decide)]
  simp

lemma splitSlice_withoutRequest (q : Quadlet) :
    (writable (withoutRequest q)).splitSlice 16 = 0 := by
  apply Quadlet.splitSlice_eq
  intro i hi
  have hlt : (if i < 7 then 16 + i else 16 + i + 1) < 32 := by split <;> omega
  rw [getLsbD_writable hlt, getLsbD_withoutRequest q hlt]
  grind

lemma getLsbD_withoutRequest_of_lt (q : Quadlet) (hlow : i < 16) (hne : i ≠ 8) :
    (writable (withoutRequest q)).getLsbD i = (writable q).getLsbD i := by
  have hi : i < 32 := by omega
  rw [getLsbD_writable hi, getLsbD_writable hi, getLsbD_withoutRequest q hi,
    decide_eq_true ⟨hlow, hne⟩, Bool.and_true]

/-! ## The run bit -/

lemma getLsbD_withRun (run : Bool) (q : Quadlet) :
    (writable (withRun run q)).getLsbD 16 = run := by
  rw [getLsbD_writable (by decide), withRun, Quadlet.getLsbD_withBit (by decide), if_pos rfl]
  exact Bool.and_true run

lemma getLsbD_withRun_of_ne (run : Bool) (q : Quadlet) (hi : i < 32) (hne : i ≠ 16) :
    (writable (withRun run q)).getLsbD i = (writable q).getLsbD i := by
  rw [getLsbD_writable hi, getLsbD_writable hi, withRun, Quadlet.getLsbD_withBit hi, if_neg hne]

end Access

end TimecodeCard.Tco

namespace TimecodeCard.TimeCode

lemma getLsbD_ofFields (f : Fields) {i : Nat} (hi : i < 32) (htop : i % 8 = 7) :
    (ofFields f).code.getLsbD i = false := by
  rw [ofFields, BitVec.getLsbD_ofNat, Nat.testBit_eq_decide_div_mod_eq]
  have hhours := Nat.mod_lt (digits (f.hours % 0x100)) (by decide : 0 < 0x40)
  have hminutes := Nat.mod_lt (digits (f.minutes % 0x100)) (by decide : 0 < 0x80)
  have hseconds := Nat.mod_lt (digits (f.seconds % 0x100)) (by decide : 0 < 0x80)
  have hframes := Nat.mod_lt (digits (f.frames % 0x100)) (by decide : 0 < 0x40)
  rcases (by omega : i = 7 ∨ i = 15 ∨ i = 23 ∨ i = 31) with rfl | rfl | rfl | rfl <;>
    simp only [Bool.and_eq_false_iff, decide_eq_false_iff_not] <;> omega

/-- Packing leaves the topmost bit of each byte clear. -/
lemma writable_ofFields (f : Fields) :
    Tco.Access.writable (ofFields f).code = (ofFields f).code := by
  refine BitVec.eq_of_getLsbD_eq fun i hi => ?_
  rw [Tco.Access.getLsbD_writable hi]
  by_cases htop : i % 8 = 7
  · rw [getLsbD_ofFields f hi htop, Bool.false_and]
  · rw [decide_eq_true htop, Bool.and_true]

end TimecodeCard.TimeCode
