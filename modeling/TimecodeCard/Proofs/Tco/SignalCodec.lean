import Mathlib.Tactic
import TimecodeCard.Tco.Signals

/-!
# Input signals read back from their quadlet

`Signals.getLsbD_encode` gives every bit of the quadlet of the signals. Each field stands alone
on its bits, so that reading the quadlet gives the signals back (`Signals.decode_encode`), if the
quarter frame and the offset fit the bits which they have. Together the fields leave out no bit but
the topmost of each byte, so that reading any quadlet and building it again loses only these
(`Signals.encode_decode`).
-/

namespace TimecodeCard.Tco.Signals

variable {s : Signals} {i : Nat}

/-- Whether the numbers are within their bits. -/
structure Fits (s : Signals) : Prop where
  quarterFrame_lt : s.quarterFrame < 4
  offset_lt : s.offset < 0x4000

lemma fits_decode (q : Quadlet) : (decode q).Fits where
  quarterFrame_lt := (q.slice 12 2).isLt
  offset_lt := (q.splitSlice 16).isLt

lemma getLsbD_encode (s : Signals) (hi : i < 32) :
    s.encode.getLsbD i
      = (decide (i = 0) && s.locked
        || decide (1 ≤ i) && s.wordClockSpeed.code.getLsbD (i - 1)
        || decide (i = 3) && s.timeCodeValid
        || decide (i = 4) && s.wordClockValid
        || decide (5 ≤ i) && s.video.code.getLsbD (i - 5)
        || decide (i = 8) && s.setRequest
        || decide (i = 9) && s.dropFrame
        || decide (10 ≤ i) && s.rate.code.getLsbD (i - 10)
        || decide (12 ≤ i) && (BitVec.ofNat 2 s.quarterFrame).getLsbD (i - 12)
        || decide (i = 14) && s.newQuarterFrame
        || (decide (16 ≤ i ∧ i < 23) && (BitVec.ofNat 14 s.offset).getLsbD (i - 16)
          || decide (24 ≤ i ∧ i < 31) && (BitVec.ofNat 14 s.offset).getLsbD (i - 17))) := by
  simp only [encode, BitVec.getLsbD_or, Quadlet.getLsbD_flag hi, Quadlet.getLsbD_place hi,
    Quadlet.getLsbD_placeSplit hi]
  grind

/-! ## Fields -/

lemma flags_encode (s : Signals) :
    s.encode.getLsbD 0 = s.locked ∧ s.encode.getLsbD 3 = s.timeCodeValid
      ∧ s.encode.getLsbD 4 = s.wordClockValid ∧ s.encode.getLsbD 8 = s.setRequest
      ∧ s.encode.getLsbD 9 = s.dropFrame ∧ s.encode.getLsbD 14 = s.newQuarterFrame := by
  refine ⟨?_, ?_, ?_, ?_, ?_, ?_⟩ <;> rw [getLsbD_encode s (by decide)] <;>
    simp [BitVec.getLsbD_of_ge]

lemma codes_encode (s : Signals) :
    s.encode.slice 1 2 = s.wordClockSpeed.code ∧ s.encode.slice 5 2 = s.video.code
      ∧ s.encode.slice 10 2 = s.rate.code
      ∧ s.encode.slice 12 2 = BitVec.ofNat 2 s.quarterFrame := by
  refine ⟨?_, ?_, ?_, ?_⟩
  all_goals
    apply Quadlet.slice_eq
    intro i hi
    rw [getLsbD_encode s (by omega)]
    interval_cases i <;> simp [BitVec.getLsbD_of_ge]

lemma splitSlice_encode_offset (s : Signals) :
    s.encode.splitSlice 16 = BitVec.ofNat 14 s.offset := by
  apply Quadlet.splitSlice_eq
  intro i hi
  rw [getLsbD_encode s (by split <;> omega)]
  interval_cases i <;> simp [BitVec.getLsbD_of_ge]

/-- **Codec.** The signals are read back from their quadlet. -/
theorem decode_encode (h : s.Fits) : decode s.encode = s := by
  have hquarter : (BitVec.ofNat 2 s.quarterFrame).toNat = s.quarterFrame := by
    rw [BitVec.toNat_ofNat, Nat.mod_eq_of_lt h.quarterFrame_lt]
  have hoffset : (BitVec.ofNat 14 s.offset).toNat = s.offset := by
    rw [BitVec.toNat_ofNat, Nat.mod_eq_of_lt h.offset_lt]
  obtain ⟨hlocked, htimeCode, hwordClock, hrequest, hdrop, hnew⟩ := s.flags_encode
  obtain ⟨hspeed, hvideo, hrate, hslice⟩ := s.codes_encode
  rw [decode, hlocked, htimeCode, hwordClock, hrequest, hdrop, hnew, hspeed, hvideo, hrate, hslice,
    splitSlice_encode_offset, hquarter, hoffset]
  simp only [WordClockSpeed.ofCode_code, VideoFormat.ofCode_code, FrameRate.ofCode_code]

/-- **Codec.** A quadlet is built again from its signals, without the topmost bit of each byte. -/
theorem encode_decode (q : Quadlet) : (decode q).encode = q &&& 0x7f7f7f7f := by
  refine BitVec.eq_of_getLsbD_eq fun i hi => ?_
  rw [getLsbD_encode _ hi, BitVec.getLsbD_and]
  simp only [decode, WordClockSpeed.code_ofCode, VideoFormat.code_ofCode, FrameRate.code_ofCode,
    BitVec.ofNat_toNat, BitVec.setWidth_eq, Quadlet.getLsbD_slice, Quadlet.getLsbD_splitSlice]
  interval_cases i <;> simp

end TimecodeCard.Tco.Signals
