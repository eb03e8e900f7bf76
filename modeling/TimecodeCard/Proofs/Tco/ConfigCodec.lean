import Mathlib.Tactic
import TimecodeCard.Proofs.Tco.Encoding

/-!
# Configuration read back from its bank

The configuration is read back from its bank over any other one (`Config.decode_encode`): each
field stands alone on its bits, and no code that is built means nothing. What is written to
hardware lacks the topmost bit of each byte, of which the configuration uses one, so that only the
choice to follow the card is lost (`Config.decode_written`).

Changing the run bit or the base rate in place changes that field of what is read and no other,
whatever bank it is done to (`Config.decode_withRun`, `Config.decode_withBaseRate`). The main
result, `Config.written_reads_back`, joins these.
-/

namespace TimecodeCard.Tco

variable {i : Nat}

/-! ## Codes -/

lemma SyncSource.ofCode?_code (s : SyncSource) : ofCode? s.code = some s := by
  cases s <;> rfl

lemma WordClockConversion.ofCode?_code (c : WordClockConversion) : ofCode? c.code = some c := by
  cases c <;> rfl

namespace SampleRate

/-- The sample rate with another base rate in use. -/
def withBase (base : BaseRate) : SampleRate → SampleRate
  | .fixed _ => .fixed base
  | .ofCard _ => .ofCard base

lemma ite_followsCard (r : SampleRate) :
    (if r.followsCard then .ofCard r.base else .fixed r.base) = r := by
  cases r <;> rfl

end SampleRate

/-! ## Fields which a change leaves alone -/

namespace Access

/-- The bank as it is written. -/
def written (b : Bank) : Bank where
  q0 := writable b.q0
  q1 := writable b.q1
  q2 := writable b.q2
  q3 := writable b.q3

variable {q : Quadlet}

lemma slice_writable {shift width : Nat} (hle : shift + width ≤ 32)
    (htop : ∀ i < width, (shift + i) % 8 ≠ 7) :
    (writable q).slice shift width = q.slice shift width := by
  apply Quadlet.slice_eq
  intro i hi
  rw [getLsbD_writable (by omega), decide_eq_true (htop i hi), Bool.and_true,
    Quadlet.getLsbD_slice, decide_eq_true hi, Bool.true_and]

end Access

lemma slice_withBit {bit shift width : Nat} {x : Bool} {q : Quadlet} (hle : shift + width ≤ 32)
    (hbit : bit < shift ∨ shift + width ≤ bit) :
    (q.withBit bit x).slice shift width = q.slice shift width := by
  apply Quadlet.slice_eq
  intro i hi
  rw [Quadlet.getLsbD_withBit (by omega), if_neg (by omega), Quadlet.getLsbD_slice,
    decide_eq_true hi, Bool.true_and]

lemma getLsbD_withBit_eq {bit : Nat} (hbit : bit < 32) (x : Bool) (q : Quadlet) (i : Nat) :
    (q.withBit bit x).getLsbD i = if i = bit then x else q.getLsbD i := by
  by_cases hi : i < 32
  · exact Quadlet.getLsbD_withBit hi
  · rw [BitVec.getLsbD_of_ge _ _ (Nat.le_of_not_lt hi), if_neg (by omega),
      BitVec.getLsbD_of_ge _ _ (Nat.le_of_not_lt hi)]

namespace Config

variable {before c : Config} {b : Bank} {q : Quadlet}

/-! ## Fields of the encoding -/

lemma flags_encode (c : Config) :
    c.encode.q1.getLsbD 9 = c.dropFrame ∧ c.encode.q2.getLsbD 16 = c.run
      ∧ c.encode.q2.getLsbD 22 = c.flywheel ∧ c.encode.q2.getLsbD 28 = c.termination
      ∧ c.encode.q2.getLsbD 31 = c.sampleRate.followsCard := by
  refine ⟨?_, c.getLsbD_encode_run, ?_, ?_, ?_⟩
  · rw [getLsbD_encode_q1 c (by decide)]
    simp
  all_goals
    rw [getLsbD_encode_q2 c (by decide)]
    simp

lemma ofQuadlet2_encode (c : Config) : BaseRate.ofQuadlet2 c.encode.q2 = c.sampleRate.base := by
  rw [BaseRate.ofQuadlet2, getLsbD_encode_base]
  cases c.sampleRate.base <;> rfl

lemma codes_encode_q1 (c : Config) :
    c.encode.q1.slice 1 2 = c.outputSpeed.code ∧ c.encode.q1.slice 10 2 = c.rate.code := by
  constructor
  all_goals
    apply Quadlet.slice_eq
    intro i hi
    rw [getLsbD_encode_q1 c (by omega)]
    interval_cases i <;> simp

lemma codes_encode_q2 (c : Config) :
    c.encode.q2.slice 17 2 = c.conversion.code ∧ c.encode.q2.slice 24 3 = c.pull.code
      ∧ c.encode.q2.slice 29 2 = c.syncSource.code := by
  refine ⟨?_, ?_, ?_⟩
  all_goals
    apply Quadlet.slice_eq
    intro i hi
    rw [getLsbD_encode_q2 c (by omega)]
    interval_cases i <;> simp

/-- **Codec.** The configuration is read back over any other one. -/
theorem decode_encode (before c : Config) : before.decode c.encode = c := by
  obtain ⟨hdrop, hrun, hflywheel, htermination, hfollows⟩ := c.flags_encode
  obtain ⟨hspeed, hrate⟩ := c.codes_encode_q1
  obtain ⟨hconversion, hpull, hsource⟩ := c.codes_encode_q2
  rw [decode, hdrop, hrun, hflywheel, htermination, hfollows, ofQuadlet2_encode, hspeed, hrate,
    hconversion, hpull, hsource, SyncSource.ofCode?_code, WordClockConversion.ofCode?_code,
    WordClockSpeed.ofCode_code, FrameRate.ofCode_code, Pull.ofCode_code,
    SampleRate.ite_followsCard]
  rfl

/-! ## Banks which differ in single bits -/

lemma base_sampleRate_decode (before : Config) (b : Bank) :
    (before.decode b).sampleRate.base = .ofQuadlet2 b.q2 := by
  rw [decode]
  split <;> rfl

/-- What is written reads like the bank, at a base rate which does not follow the card. -/
theorem decode_written (before : Config) (b : Bank) :
    before.decode (Access.written b)
      = { before.decode b with sampleRate := .fixed (before.decode b).sampleRate.base } := by
  have hbit : ∀ {q : Quadlet} {i : Nat}, i < 32 → i % 8 ≠ 7 →
      (Access.writable q).getLsbD i = q.getLsbD i := by
    intro q i hi htop
    rw [Access.getLsbD_writable hi, decide_eq_true htop, Bool.and_true]
  have hbase : BaseRate.ofQuadlet2 (Access.writable b.q2) = BaseRate.ofQuadlet2 b.q2 := by
    rw [BaseRate.ofQuadlet2, hbit (by decide) (by decide), BaseRate.ofQuadlet2]
  have hcard : (Access.writable b.q2).getLsbD 31 = false := by
    rw [Access.getLsbD_writable (by decide)]
    simp
  rw [base_sampleRate_decode]
  simp (disch := decide) only [decode, Access.written, Access.slice_writable, hbit, hbase, hcard]
  rfl

/-- Changing the run bit changes whether the output runs. -/
theorem decode_withRun (before : Config) (b : Bank) (run : Bool) :
    before.decode { b with q2 := Access.withRun run b.q2 } = { before.decode b with run } := by
  simp (disch := decide) only [decode, BaseRate.ofQuadlet2, Access.withRun, slice_withBit,
    getLsbD_withBit_eq]
  rfl

/-- Changing the bit of the base rate changes the base rate, and not whether it is that of the
card. -/
theorem decode_withBaseRate (before : Config) (b : Bank) (base : BaseRate) :
    before.decode { b with q2 := Access.withBaseRate base b.q2 }
      = { before.decode b with
          sampleRate := (before.decode b).sampleRate.withBase base } := by
  simp (disch := decide) only [decode, BaseRate.ofQuadlet2, Access.withBaseRate, slice_withBit,
    getLsbD_withBit_eq]
  cases base <;> cases b.q2.getLsbD 31 <;> rfl

/-! ## What is written -/

variable {δ : Type} [Device δ]

/-- A whole bank is written as `Access.written` says, quadlet 0 first. -/
lemma writes_writeBank (d : Recorded δ) (b : Bank) :
    (Access.writeBank d b).writes
      = d.writes ++ [(128, (Access.written b).q0), (132, (Access.written b).q1),
          (136, (Access.written b).q2), (140, (Access.written b).q3)] := by
  simp [Access.writeBank, Access.write, Access.writeOffset, Recorded.writes, Device.write,
    Access.written]

/-- **The configuration codec.** A configuration is read back from its bank over any other one. It
is read back from what is really written of its bank but for the choice to follow the card, in
whose place is the base rate at the time. The run bit and the base rate are changed in place in any
bank, whatever its bits, without a change to another bit or another field. -/
theorem written_reads_back :
    (∀ before c : Config, before.decodeList c.encode.toList = .ok c)
      ∧ (∀ (before c : Config) (d : Recorded δ), ∃ b : Bank,
        (Access.writeBank d c.encode).writes
            = d.writes ++ [(128, b.q0), (132, b.q1), (136, b.q2), (140, b.q3)]
          ∧ b = { q0 := c.encode.q0 &&& 0x7f7f7f7f
                  q1 := c.encode.q1 &&& 0x7f7f7f7f
                  q2 := c.encode.q2 &&& 0x7f7f7f7f
                  q3 := c.encode.q3 &&& 0x7f7f7f7f }
          ∧ before.decodeList b.toList = .ok { c with sampleRate := .fixed c.sampleRate.base })
      ∧ (∀ (run : Bool) (q2 : Quadlet) (i : Nat),
        (Access.withRun run q2).getLsbD i = if i = 16 then run else q2.getLsbD i)
      ∧ (∀ (before : Config) (b : Bank) (run : Bool),
        before.decode { b with q2 := Access.withRun run b.q2 } = { before.decode b with run })
      ∧ (∀ (base : BaseRate) (q2 : Quadlet) (i : Nat),
        (Access.withBaseRate base q2).getLsbD i
          = if i = 27 then decide (base = .hz48000) else q2.getLsbD i)
      ∧ ∀ (before : Config) (b : Bank) (base : BaseRate),
        before.decode { b with q2 := Access.withBaseRate base b.q2 }
          = { before.decode b with
              sampleRate := (before.decode b).sampleRate.withBase base } := by
  refine ⟨?_, ?_, ?_, decode_withRun, ?_, decode_withBaseRate⟩
  · intro before c
    rw [decodeList, Bank.ofList?_toList, Except.map, decode_encode]
  · intro before c d
    refine ⟨Access.written c.encode, writes_writeBank d c.encode, rfl, ?_⟩
    rw [decodeList, Bank.ofList?_toList, Except.map, decode_written, decode_encode]
  · intro run q2 i
    exact getLsbD_withBit_eq (by decide) run q2 i
  · intro base q2 i
    exact getLsbD_withBit_eq (by decide) (decide (base = .hz48000)) q2 i

end Config

end TimecodeCard.Tco
