import Mathlib.Tactic
import TimecodeCard.Ltc.Output
import TimecodeCard.Proofs.Ltc.Landing
import TimecodeCard.Proofs.Tco.Encoding
import TimecodeCard.Proofs.TimeCode.Enumeration

/-!
# What the output writes

The time code output has three kinds of writes. A start is launched by three quadlets
(`Output.launch`), the request of the start before is withdrawn from quadlet 1
(`Output.withdrawal`), and the run bit is changed in quadlet 2. This module reads the quadlets as
hardware does.

Registers do not hold everything: the topmost bit of each byte is cut off, and an offset has 14
bits. The time code loses nothing. It is valid, whatever word was asked for, because frames were
added to it (`timeCode_isValid_of_schedule?`), and a valid word has no bit which is cut off. Of the
offset there is what 14 bits hold, with the set request beside it (`Carries`).
-/

namespace TimecodeCard

open Tco.Access (writable writeOffset withRequest withoutRequest withRun)

/-! ## The time code -/

/-- No bit of a valid word is cut off. -/
lemma TimeCode.IsValid.writable_code {c : Counting} {t : TimeCode} (h : t.IsValid c) :
    writable t.code = t.code := by
  rw [← h.ofFields_fields, TimeCode.writable_ofFields]

namespace Ltc

variable {r : Request} {m : Moment} {s : Scheduled}

lemma exists_addFrames_of_schedule? (h : schedule? r m = .ok s) :
    ∃ code k, s.timeCode = TimeCode.addFrames m.counting k code := by
  obtain ⟨⟨code, start⟩, -, h⟩ := exists_of_bind_eq_ok h
  obtain ⟨ahead, -, h⟩ := exists_of_bind_eq_ok h
  obtain ⟨lower, -, h⟩ := exists_of_bind_eq_ok h
  obtain ⟨shift, -, h⟩ := exists_of_bind_eq_ok h
  obtain ⟨moved, -, h⟩ := exists_of_bind_eq_ok h
  obtain ⟨startFrame, -, h⟩ := exists_of_bind_eq_ok h
  obtain ⟨next, -, h⟩ := exists_of_bind_eq_ok h
  obtain ⟨wait, -, h⟩ := exists_of_bind_eq_ok h
  obtain ⟨offset, -, h⟩ := exists_of_bind_eq_ok h
  obtain rfl := Except.ok.inj h
  exact ⟨code, _, rfl⟩

lemma timeCode_isValid_of_schedule? (h : schedule? r m = .ok s) :
    s.timeCode.IsValid m.counting := by
  obtain ⟨code, k, heq⟩ := exists_addFrames_of_schedule? h
  rw [heq]
  exact TimeCode.isValid_addFrames m.one_le_fps m.fps_le code k

/-! ## What the quadlets hold -/

/-- Whether quadlet 1 has the set request and the offset given, and the parameters of the cached
one otherwise. -/
structure Carries (setRequest : Bool) (offset : Int) (cached q1 : Quadlet) : Prop where
  setRequest_eq : (Tco.Signals.decode q1).setRequest = setRequest
  offset_eq : ((Tco.Signals.decode q1).offset : Int) = offset
  getLsbD_eq {i : Nat} (hlow : i < 16) (hne : i ≠ 8) :
    q1.getLsbD i = (writable cached).getLsbD i

/-- Whether the quadlet asks for a start after the offset, and has the parameters of the cached one
otherwise. -/
def AsksFor (offset : Int) (cached q1 : Quadlet) : Prop :=
  Carries true offset cached q1

/-- Whether quadlet 2 has the run bit given, and the parameters of the cached one otherwise. -/
structure HasRun (run : Bool) (cached q2 : Quadlet) : Prop where
  run_eq : q2.getLsbD 16 = run
  getLsbD_eq {i : Nat} (hi : i < 32) (hne : i ≠ 16) : q2.getLsbD i = (writable cached).getLsbD i

lemma carries_withRequest (offset : Int) (cached : Quadlet) :
    Carries true (offset % 0x4000) cached (writable (withRequest cached offset)) where
  setRequest_eq := Tco.Access.request_withRequest cached offset
  offset_eq := Tco.Access.offset_decode_withRequest cached offset
  getLsbD_eq hlow hne := Tco.Access.getLsbD_withRequest_of_lt cached offset hlow hne

/-- An offset of 14 bits is written without loss. -/
lemma asksFor_withRequest {offset : Int} (hnonneg : 0 ≤ offset) (hle : offset ≤ Tco.maxOffset)
    (cached : Quadlet) : AsksFor offset cached (writable (withRequest cached offset)) := by
  have hcarries := carries_withRequest offset cached
  unfold Tco.maxOffset at hle
  rwa [Int.emod_eq_of_lt hnonneg (by omega)] at hcarries

lemma carries_withoutRequest (cached : Quadlet) :
    Carries false 0 cached (writable (withoutRequest cached)) where
  setRequest_eq := Tco.Access.request_withoutRequest cached
  offset_eq := by
    show (((writable (withoutRequest cached)).splitSlice 16).toNat : Int) = 0
    rw [Tco.Access.splitSlice_withoutRequest]
    rfl
  getLsbD_eq hlow hne := Tco.Access.getLsbD_withoutRequest_of_lt cached hlow hne

lemma hasRun_withRun (run : Bool) (cached : Quadlet) :
    HasRun run cached (writable (withRun run cached)) where
  run_eq := Tco.Access.getLsbD_withRun run cached
  getLsbD_eq hi hne := Tco.Access.getLsbD_withRun_of_ne run cached hi hne

/-! ## The writes -/

namespace Output

/-- The offset and the quadlet of a write to the control bank. -/
def writeOf (n : Nat) (q : Quadlet) : Nat × Quadlet :=
  (writeOffset n, writable q)

/-- The write which withdraws the set request and its offset. -/
def withdrawal (cache : Bank) : Nat × Quadlet :=
  writeOf 1 (withoutRequest cache.q1)

/-- The writes which start the time code: the code, then the set request with the offset, then
the run bit. -/
def launch (cache : Bank) (s : Scheduled) : List (Nat × Quadlet) :=
  [writeOf 0 s.timeCode.code, writeOf 1 (withRequest cache.q1 s.offset),
    writeOf 2 (withRun true cache.q2)]

/-- The start of a schedule is launched with its time code as it is. -/
lemma exists_launch_eq (h : schedule? r m = .ok s) (cache : Bank) :
    ∃ q1 q2, launch cache s
        = [(writeOffset 0, s.timeCode.code), (writeOffset 1, q1), (writeOffset 2, q2)]
      ∧ AsksFor (s.offset % 0x4000) cache.q1 q1 ∧ HasRun true cache.q2 q2 := by
  refine ⟨_, _, ?_, carries_withRequest s.offset cache.q1, hasRun_withRun true cache.q2⟩
  rw [launch, writeOf, (timeCode_isValid_of_schedule? h).writable_code, writeOf, writeOf]

variable {δ : Type} [Device δ]

lemma writes_write (d : Recorded δ) (n : Nat) (q : Quadlet) :
    (Tco.Access.write d n q).writes = d.writes ++ [writeOf n q] :=
  List.reverse_cons

lemma writes_disarm (t : Target (Recorded δ)) :
    (disarm t).device.writes = t.device.writes ++ [withdrawal t.cache] :=
  writes_write _ _ _

lemma writes_arm (s : Scheduled) (t : Target (Recorded δ)) :
    (arm s t).device.writes = t.device.writes ++ launch t.cache s := by
  rw [arm, setRun, writes_write, Tco.Access.writeTimeCode, writes_write, writes_write,
    Tco.Access.withRequest_asSigned32]
  simp [launch]

end Output

end Ltc

end TimecodeCard
