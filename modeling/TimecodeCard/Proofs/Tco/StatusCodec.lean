import Mathlib.Tactic
import TimecodeCard.Proofs.Tco.SignalCodec
import TimecodeCard.Tco.Status

/-!
# Status read back from its bank

A status whose numbers fit their bits is read back from its bank (`Status.decode_encode`), and a
bank is built again from the status in it, up to the bits which no field has
(`Status.encode_decode`). Quadlet 0 is kept as it is, quadlet 1 is that of the input signals, and
the fields of quadlets 2 and 3 leave bits out. Reading keeps nothing of a status known before.

The main result, `Status.codec_exact`, says both of lists of quadlets, and of the input signals
alone.
-/

namespace TimecodeCard.Tco

variable {i : Nat}

/-! ## Video frame rate -/

namespace VideoRate

/-- Whether the rate has a name, or else a code of four bits which none with a name has. -/
def Fits : VideoRate → Prop
  | .reserved code => 11 ≤ code ∧ code ≤ 15
  | _ => True

lemma code_ofCode (n : Nat) : (ofCode n).code = n := by
  unfold ofCode
  split <;> rfl

lemma Fits.code_lt {r : VideoRate} (h : r.Fits) : r.code < 16 := by
  cases r with
  | reserved code => exact Nat.lt_succ_of_le h.2
  | _ => decide

lemma Fits.ofCode_code {r : VideoRate} (h : r.Fits) : ofCode r.code = r := by
  cases r with
  | reserved code =>
      obtain ⟨hlow, hhigh⟩ := h
      show ofCode code = .reserved code
      interval_cases code <;> rfl
  | _ => rfl

end VideoRate

namespace Status

/-- Whether the numbers are within their bits. -/
structure Fits (s : Status) : Prop where
  signals : s.signals.Fits
  wordClockPeriod_lt : s.wordClockPeriod < 0x4000
  videoRate : s.videoRate.Fits
  firmware_lt : s.firmware < 0x80

/-! ## Bits of the bank -/

lemma getLsbD_encode_q2 (s : Status) (hi : i < 32) :
    s.encode.q2.getLsbD i
      = ((decide (i < 7) && (BitVec.ofNat 14 s.wordClockPeriod).getLsbD i
          || decide (8 ≤ i ∧ i < 15) && (BitVec.ofNat 14 s.wordClockPeriod).getLsbD (i - 1))
        || decide (27 ≤ i) && (BitVec.ofNat 4 s.videoRate.code).getLsbD (i - 27)) := by
  simp only [encode, BitVec.getLsbD_or, Quadlet.getLsbD_placeSplit hi, Quadlet.getLsbD_place hi]
  grind

lemma getLsbD_encode_q3 (s : Status) (hi : i < 32) :
    s.encode.q3.getLsbD i
      = (decide (24 ≤ i) && (BitVec.ofNat 7 s.firmware).getLsbD (i - 24)) := by
  simp only [encode, Quadlet.getLsbD_place hi]

/-! ## Fields -/

lemma splitSlice_encode_wordClockPeriod (s : Status) :
    s.encode.q2.splitSlice 0 = BitVec.ofNat 14 s.wordClockPeriod := by
  apply Quadlet.splitSlice_eq
  intro i hi
  rw [getLsbD_encode_q2 s (by split <;> omega)]
  interval_cases i <;> simp

lemma slice_encode_videoRate (s : Status) :
    s.encode.q2.slice 27 4 = BitVec.ofNat 4 s.videoRate.code := by
  apply Quadlet.slice_eq
  intro i hi
  rw [getLsbD_encode_q2 s (by omega)]
  interval_cases i <;> simp

lemma slice_encode_firmware (s : Status) :
    s.encode.q3.slice 24 7 = BitVec.ofNat 7 s.firmware := by
  apply Quadlet.slice_eq
  intro i hi
  rw [getLsbD_encode_q3 s (by omega)]
  interval_cases i <;> simp

/-! ## Both directions -/

/-- **Codec.** The status is read back from its bank. -/
theorem decode_encode {s : Status} (h : s.Fits) : decode s.encode = s := by
  have hperiod : (BitVec.ofNat 14 s.wordClockPeriod).toNat = s.wordClockPeriod := by
    rw [BitVec.toNat_ofNat, Nat.mod_eq_of_lt h.wordClockPeriod_lt]
  have hvideo : (BitVec.ofNat 4 s.videoRate.code).toNat = s.videoRate.code := by
    rw [BitVec.toNat_ofNat, Nat.mod_eq_of_lt h.videoRate.code_lt]
  have hfirmware : (BitVec.ofNat 7 s.firmware).toNat = s.firmware := by
    rw [BitVec.toNat_ofNat, Nat.mod_eq_of_lt h.firmware_lt]
  rw [decode, splitSlice_encode_wordClockPeriod, slice_encode_videoRate, slice_encode_firmware,
    hperiod, hvideo, hfirmware, h.videoRate.ofCode_code]
  show { s with signals := .decode s.signals.encode } = s
  rw [Signals.decode_encode h.signals]

lemma encode_decode_q2 (b : Bank) : (decode b).encode.q2 = b.q2 &&& 0x78007f7f := by
  refine BitVec.eq_of_getLsbD_eq fun i hi => ?_
  rw [getLsbD_encode_q2 _ hi, BitVec.getLsbD_and]
  simp only [decode, VideoRate.code_ofCode, BitVec.ofNat_toNat, BitVec.setWidth_eq,
    Quadlet.getLsbD_slice, Quadlet.getLsbD_splitSlice]
  interval_cases i <;> simp

lemma encode_decode_q3 (b : Bank) : (decode b).encode.q3 = b.q3 &&& 0x7f000000 := by
  refine BitVec.eq_of_getLsbD_eq fun i hi => ?_
  rw [getLsbD_encode_q3 _ hi, BitVec.getLsbD_and]
  simp only [decode, BitVec.ofNat_toNat, BitVec.setWidth_eq, Quadlet.getLsbD_slice]
  interval_cases i <;> simp

/-- **Codec.** A bank is built again from its status, without the bits which no field has. -/
theorem encode_decode (b : Bank) :
    (decode b).encode
      = { q0 := b.q0
          q1 := b.q1 &&& 0x7f7f7f7f
          q2 := b.q2 &&& 0x78007f7f
          q3 := b.q3 &&& 0x7f000000 } := by
  rw [← encode_decode_q2, ← encode_decode_q3, ← Signals.encode_decode]
  rfl

/-- **The status codec is exact in both directions.** For quadlet 1 alone, and for lists of at
least four quadlets: what is read and built again loses the bits which no field has, and nothing
else. What is built of numbers within their bits is read back. -/
theorem codec_exact :
    (∀ q : Quadlet, (Signals.decode q).encode = q &&& 0x7f7f7f7f)
      ∧ (∀ s : Signals, s.Fits → Signals.decode s.encode = s)
      ∧ (∀ (q0 q1 q2 q3 : Quadlet) (rest : List Quadlet),
        (decodeList (q0 :: q1 :: q2 :: q3 :: rest)).map (fun s => s.encode.toList)
          = .ok [q0, q1 &&& 0x7f7f7f7f, q2 &&& 0x78007f7f, q3 &&& 0x7f000000])
      ∧ ∀ s : Status, s.Fits → decodeList s.encode.toList = .ok s := by
  refine ⟨Signals.encode_decode, fun s hs => Signals.decode_encode hs, ?_, ?_⟩
  · intro q0 q1 q2 q3 rest
    show Except.ok (decode { q0, q1, q2, q3 }).encode.toList = _
    rw [encode_decode]
    rfl
  · intro s hs
    rw [decodeList, Bank.ofList?_toList, Except.map, decode_encode hs]

/-- Every number at the top of its bits, with a video rate that has no name. -/
theorem codec_exact_all_ones :
    Fits ⟨⟨0x23595929⟩, { quarterFrame := 3, offset := 0x3fff }, 0x3fff, .reserved 15, 0x7f⟩
      ∧ decodeList (encode ⟨⟨0x23595929⟩, { quarterFrame := 3, offset := 0x3fff }, 0x3fff,
          .reserved 15, 0x7f⟩).toList
        = .ok ⟨⟨0x23595929⟩, { quarterFrame := 3, offset := 0x3fff }, 0x3fff, .reserved 15, 0x7f⟩
      ∧ Signals.decode (Signals.encode { quarterFrame := 3, offset := 0x3fff })
        = { quarterFrame := 3, offset := 0x3fff } := by
  have hsignals : Signals.Fits { quarterFrame := 3, offset := 0x3fff } :=
    ⟨by decide, by decide⟩
  have hfits :
      Fits ⟨⟨0x23595929⟩, { quarterFrame := 3, offset := 0x3fff }, 0x3fff, .reserved 15, 0x7f⟩ :=
    ⟨hsignals, by decide, ⟨by decide, by decide⟩, by decide⟩
  exact ⟨hfits, codec_exact.2.2.2 _ hfits, codec_exact.2.1 _ hsignals⟩

end Status

end TimecodeCard.Tco
