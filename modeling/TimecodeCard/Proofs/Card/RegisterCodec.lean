import Mathlib.Tactic
import TimecodeCard.Card.Control
import TimecodeCard.Card.Status

/-!
# Control and status read back from their registers

The control parameters are read back from the control register with the latency capped
(`Control.decode_encode`), and the status of the card from registers 0 and 2 if the hardware pointer
fits its bits (`CardStatus.decode_encode_iff`).

The other way, a word is built again from what is read of it, up to the bits which no field has. Any
two words of status are (`CardStatus.encode_decode`). The control register splits the rate over
distant bits and reads it over the rate before, so there it is so of exactly the words which settle
the rate on their own (`Control.SettlesRate`, `Control.encode_decode_iff`).
-/

namespace TimecodeCard

variable {i : Nat}

/-! ## Control -/

namespace BaseFrequency

lemma ofCode?_code (b : BaseFrequency) : ofCode? b.code = some b := by
  cases b <;> rfl

lemma code_ne_zero (b : BaseFrequency) : b.code ≠ 0 := by
  cases b <;> decide

lemma code_ofCode?_getD {code : BitVec 2} (h : code ≠ 0) (b : BaseFrequency) :
    ((ofCode? code).getD b).code = code := by
  revert code
  cases b <;> decide

end BaseFrequency

namespace Control

lemma getLsbD_encode (c : Control) (hi : i < 32) :
    c.encode.getLsbD i
      = (decide (i = 0) && c.started
        || decide (1 ≤ i) && (BitVec.ofNat 3 (min c.latency maxLatency)).getLsbD (i - 1)
        || decide (i = 5) && c.interruptEnabled
        || decide (6 ≤ i) && c.rate.base.code.getLsbD (i - 6)
        || decide (i = 8) && decide (c.rate.speed = .double)
        || decide (i = 31) && decide (c.rate.speed = .quadruple)) := by
  simp only [encode, BitVec.getLsbD_or, Quadlet.getLsbD_flag hi, Quadlet.getLsbD_place hi]

lemma flags_encode (c : Control) :
    c.encode.getLsbD 0 = c.started ∧ c.encode.getLsbD 5 = c.interruptEnabled
      ∧ c.encode.getLsbD 8 = decide (c.rate.speed = .double)
      ∧ c.encode.getLsbD 31 = decide (c.rate.speed = .quadruple) := by
  refine ⟨?_, ?_, ?_, ?_⟩ <;> rw [getLsbD_encode c (by decide)] <;> simp [BitVec.getLsbD_of_ge]

lemma slice_encode_latency (c : Control) :
    c.encode.slice 1 3 = BitVec.ofNat 3 (min c.latency maxLatency) := by
  apply Quadlet.slice_eq
  intro i hi
  rw [getLsbD_encode c (by omega)]
  interval_cases i <;> simp

lemma slice_encode_base (c : Control) : c.encode.slice 6 2 = c.rate.base.code := by
  apply Quadlet.slice_eq
  intro i hi
  rw [getLsbD_encode c (by omega)]
  interval_cases i <;> simp [BitVec.getLsbD_of_ge]

/-- **Codec.** The control parameters are read back over any others, the latency being capped. -/
theorem decode_encode (before c : Control) :
    before.decode c.encode = { c with latency := min c.latency maxLatency } := by
  have hlatency : (BitVec.ofNat 3 (min c.latency maxLatency)).toNat = min c.latency maxLatency := by
    rw [BitVec.toNat_ofNat, Nat.mod_eq_of_lt]
    exact Nat.lt_succ_of_le (min_le_right _ _)
  obtain ⟨hstarted, henabled, hdouble, hquadruple⟩ := c.flags_encode
  rw [decode, hstarted, henabled, hdouble, hquadruple, slice_encode_latency, slice_encode_base,
    hlatency, BaseFrequency.ofCode?_code]
  obtain ⟨started, latency, enabled, base, speed⟩ := c
  cases speed <;> rfl

/-- Whether the word names a base frequency, and not two speeds at once. -/
def SettlesRate (q : Quadlet) : Prop :=
  q.slice 6 2 ≠ 0 ∧ ¬ (q.getLsbD 8 = true ∧ q.getLsbD 31 = true)

variable {before : Control} {q : Quadlet}

lemma speed_decode (before : Control) (h : ¬ (q.getLsbD 8 = true ∧ q.getLsbD 31 = true)) :
    decide ((before.decode q).rate.speed = .double) = q.getLsbD 8
      ∧ decide ((before.decode q).rate.speed = .quadruple) = q.getLsbD 31 := by
  rw [decode]
  cases hdouble : q.getLsbD 8 <;> cases hquadruple : q.getLsbD 31 <;> simp_all

lemma SettlesRate.encode_decode (h : SettlesRate q) (before : Control) :
    (before.decode q).encode = q &&& 0x800001ef := by
  have hlatency : min (before.decode q).latency maxLatency = (q.slice 1 3).toNat :=
    min_eq_left (Nat.le_of_lt_succ (q.slice 1 3).isLt)
  have hbase : (before.decode q).rate.base.code = q.slice 6 2 :=
    BaseFrequency.code_ofCode?_getD h.1 _
  obtain ⟨hdouble, hquadruple⟩ := before.speed_decode h.2
  refine BitVec.eq_of_getLsbD_eq fun i hi => ?_
  rw [getLsbD_encode _ hi, BitVec.getLsbD_and, hlatency, hbase, hdouble, hquadruple]
  simp only [decode, BitVec.ofNat_toNat, BitVec.setWidth_eq, Quadlet.getLsbD_slice]
  interval_cases i <;> simp

/-- A word without a base frequency is built with the one before, and of two speeds one is lost. -/
lemma settlesRate_of_encode_decode (h : (before.decode q).encode = q &&& 0x800001ef) :
    SettlesRate q := by
  constructor
  · intro hzero
    have hcode : (before.decode q).rate.base.code = 0 := by
      rw [← slice_encode_base, h]
      refine Quadlet.slice_eq fun i hi => ?_
      have hbit : (q.slice 6 2).getLsbD i = false := by
        rw [hzero]
        exact BitVec.getLsbD_zero
      rw [Quadlet.getLsbD_slice, decide_eq_true hi, Bool.true_and] at hbit
      rw [BitVec.getLsbD_and, hbit, Bool.false_and]
      exact BitVec.getLsbD_zero.symm
    exact BaseFrequency.code_ne_zero _ hcode
  · rintro ⟨hdouble, hquadruple⟩
    have hbit : (before.decode q).encode.getLsbD 8 = true := by
      rw [h, BitVec.getLsbD_and, hdouble]
      rfl
    rw [(flags_encode _).2.2.1, decode, hquadruple] at hbit
    exact nomatch (show false = true from hbit)

/-- **Codec.** A word is built again from its parameters, without the bits which no field has, exactly
if it settles the rate on its own. -/
theorem encode_decode_iff :
    (before.decode q).encode = q &&& 0x800001ef ↔ SettlesRate q :=
  ⟨settlesRate_of_encode_decode, fun h => h.encode_decode before⟩

end Control

/-! ## Status -/

namespace CardStatus

lemma slice_encode_pointer (s : CardStatus) :
    s.encode.1.slice 6 10 = BitVec.ofNat 10 s.bufferPointer := by
  apply Quadlet.slice_eq
  intro i hi
  have hlt : 6 + i < 32 := by omega
  simp only [encode, BitVec.getLsbD_or, Quadlet.getLsbD_flag hlt, Quadlet.getLsbD_place hlt]
  interval_cases i <;> simp

lemma flags_encode (s : CardStatus) :
    s.encode.1.getLsbD 0 = s.interruptPending ∧ s.encode.1.getLsbD 27 = s.detected0
      ∧ s.encode.2.getLsbD 3 = s.detected2 := by
  refine ⟨?_, ?_, ?_⟩ <;>
    simp only [encode, BitVec.getLsbD_or, Quadlet.getLsbD_flag, Quadlet.getLsbD_place,
      Nat.reduceLT] <;>
    simp [BitVec.getLsbD_of_ge]

/-- **Codec.** The status is read back. -/
theorem decode_encode {s : CardStatus} (h : s.bufferPointer < 0x400) :
    decode s.encode.1 s.encode.2 = s := by
  have hpointer : (BitVec.ofNat 10 s.bufferPointer).toNat = s.bufferPointer := by
    rw [BitVec.toNat_ofNat, Nat.mod_eq_of_lt h]
  obtain ⟨hpending, hdetected0, hdetected2⟩ := s.flags_encode
  rw [decode, hpending, hdetected0, hdetected2, slice_encode_pointer, hpointer]

theorem decode_encode_iff {s : CardStatus} :
    decode s.encode.1 s.encode.2 = s ↔ s.bufferPointer < 0x400 := by
  constructor
  · intro h
    rw [← h]
    exact (s.encode.1.slice 6 10).isLt
  · exact decode_encode

/-- **Codec.** The words are built again from the status in them, without the bits which no field
has. -/
theorem encode_decode (q0 q2 : Quadlet) :
    (decode q0 q2).encode = (q0 &&& 0x0800ffc1, q2 &&& 0x00000008) := by
  refine Prod.ext (BitVec.eq_of_getLsbD_eq fun i hi => ?_) (BitVec.eq_of_getLsbD_eq fun i hi => ?_)
  · simp only [encode, decode, BitVec.getLsbD_or, BitVec.getLsbD_and, Quadlet.getLsbD_flag hi,
      Quadlet.getLsbD_place hi, BitVec.ofNat_toNat, BitVec.setWidth_eq, Quadlet.getLsbD_slice]
    interval_cases i <;> simp
  · simp only [encode, decode, BitVec.getLsbD_and, Quadlet.getLsbD_flag hi]
    interval_cases i <;> simp

end CardStatus

end TimecodeCard
