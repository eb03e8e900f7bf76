import Mathlib.Tactic
import TimecodeCard.Proofs.Ltc.Launch

/-!
# What the output hands to hardware

At the interrupt which takes a request up, quadlet 0 of the control bank gets the scheduled time
code and quadlet 1 the offset at which it starts. This module says that nothing is lost.

Of an offset, quadlet 1 has 14 bits (`asksFor_withRequest`). The offset is what is left of the
window when a period and the startup of the output are taken away (`Moment.Lands.offset_bounds`).
The startup takes up to 16 samples, so that a period of 16 samples at single speed is just long
enough (`Moment.Lands.offset_inRange`). Cards have only one setting with a shorter period, 32 frames
at the quadruple speed.

The main results are `TimeCode.addFrames_acts` and `Output.period_hands_over`.
-/

namespace TimecodeCard

open Tco.Access (writable writeOffset withRun)

/-- **Adding frames is an action.** Whatever a word holds, it is valid with frames added, two sums
in a row are one, and it stays where nothing is added exactly if it was valid before. So whatever
word a request asks for, the time code which is scheduled is valid, and hardware gets all of it. -/
theorem TimeCode.addFrames_acts {c : Counting} (hpos : 1 ≤ c.fps) (hfit : c.fps ≤ 40) :
    (∀ (t : TimeCode) (n : Int), (t.addFrames c n).IsValid c)
      ∧ (∀ (t : TimeCode) (m n : Int), (t.addFrames c m).addFrames c n = t.addFrames c (m + n))
      ∧ (∀ t : TimeCode, t.addFrames c 0 = t ↔ t.IsValid c)
      ∧ (∀ (r : Ltc.Request) (m : Ltc.Moment), r.Fits → m.Fits → ∃ s, Ltc.schedule? r m = .ok s)
      ∧ ∀ (r : Ltc.Request) (m : Ltc.Moment) (s : Ltc.Scheduled), Ltc.schedule? r m = .ok s →
        s.timeCode.IsValid m.counting ∧ writable s.timeCode.code = s.timeCode.code := by
  refine ⟨isValid_addFrames hpos hfit, addFrames_addFrames hpos hfit,
    addFrames_zero_eq_iff hpos hfit, ?_, ?_⟩
  · intro r m hr hm
    exact (hm.inReach.exists_schedule?_iff hr.inRange).2 (hr.not_overruns hm)
  · intro r m s hschedule
    have hvalid := Ltc.timeCode_isValid_of_schedule? hschedule
    exact ⟨hvalid, hvalid.writable_code⟩

/-- The word with every bit set stands for 45 hours and 85 minutes, and its frames are cut to the
last of a second. -/
theorem TimeCode.addFrames_acts_absent :
    ¬ TimeCode.absent.IsValid ⟨30, true⟩
      ∧ TimeCode.absent.addFrames ⟨30, true⟩ 0 = ⟨0x22262601⟩
      ∧ (TimeCode.absent.addFrames ⟨30, true⟩ 0).IsValid ⟨30, true⟩
      ∧ (TimeCode.absent.addFrames ⟨30, true⟩ 0).addFrames ⟨30, true⟩ (-1)
        = TimeCode.absent.addFrames ⟨30, true⟩ (-1) := by
  obtain ⟨hvalid, hsum, -, -, -⟩ :=
    TimeCode.addFrames_acts (c := ⟨30, true⟩) (by decide) (by decide)
  exact ⟨by decide, by decide, hvalid _ _, hsum _ _ _⟩

namespace Ltc

variable {r : Request} {m : Moment} {s : Scheduled} {code : TimeCode} {start : Int}

/-! ## The offset -/

/-- The offset lies in a window of one frame's length, which opens one period after the next
interrupt, earlier by the startup of the output. -/
lemma Moment.Lands.offset_bounds (h : m.Lands code start s) :
    m.period - Tco.Access.startupLatency m.rate m.baseRate ≤ s.offset
      ∧ s.offset < m.period - Tco.Access.startupLatency m.rate m.baseRate + m.frameSize := by
  have hopens := h.earliest_le
  have hcloses := h.startFrame_lt
  have hoffset := h.offset_eq
  rw [m.period_eq]
  unfold Moment.earliest at hopens hcloses
  omega

/-- Periods which outlast the startup leave the offset within its bits. -/
lemma Moment.Lands.offset_inRange (h : m.Lands code start s) (hshort : 16 ≤ m.period)
    (hlong : m.periodSize ≤ 8192) : 0 ≤ s.offset ∧ s.offset ≤ Tco.maxOffset := by
  have hbounds := h.offset_bounds
  have hlatency := startupLatency_le m.rate m.baseRate
  have hsize := m.frameSize_bounds
  have hperiod := m.div_factor_le (x := m.periodSize) (by omega)
  rw [← m.period_eq] at hperiod
  unfold Tco.maxOffset
  omega

lemma Output.warningsOf_eq_nil_iff :
    Output.warningsOf s = [] ↔ 0 ≤ s.offset ∧ s.offset ≤ Tco.maxOffset := by
  unfold Output.warningsOf
  split
  · simp only [reduceCtorEq, false_iff]
    omega
  · simp only [true_iff]
    omega

/-! ## The interrupt -/

variable {δ : Type} [Device δ]

lemma Output.period_eq_ok (hschedule : schedule? r m = .ok s) (o : Output)
    (t : Target (Recorded δ)) :
    ∃ p, ({ o with pending := some r } : Output).period t m = .ok p
      ∧ p.warnings = warningsOf s
      ∧ p.target.device.writes
        = t.device.writes ++ (if o.armed then [withdrawal t.cache] else [])
          ++ launch t.cache s := by
  refine ⟨_, by simp only [Output.period, hschedule]; rfl, rfl, ?_⟩
  rw [writes_arm]
  split
  · rw [writes_disarm]
    rfl
  · rw [List.append_nil]

/-- **Hardware gets what is scheduled.** A request whose numbers fit their words is scheduled with
an offset of 14 bits, as long as the period has 16 samples at single speed. The interrupt gives no
warning and writes the time code unchanged, then a quadlet 1 from which the offset is read back
together with the set request, and which has the other parameters of the cached one. From the next
interrupt, the offset and the startup lead to the start. -/
theorem Output.period_hands_over (hr : r.Fits) (hm : m.Fits) (hshort : 16 ≤ m.period)
    (hlong : m.periodSize ≤ 8192) (o : Output) (t : Target (Recorded δ)) :
    ∃ s p q1, schedule? r m = .ok s
      ∧ ({ o with pending := some r } : Output).period t m = .ok p
      ∧ (0 ≤ s.offset ∧ s.offset ≤ 16383) ∧ p.warnings = []
      ∧ p.target.device.writes
        = t.device.writes ++ (if o.armed then [withdrawal t.cache] else [])
          ++ [(writeOffset 0, s.timeCode.code), (writeOffset 1, q1),
            writeOf 2 (withRun true t.cache.q2)]
      ∧ AsksFor s.offset t.cache.q1 q1
      ∧ m.current + m.period + (Tco.Signals.decode q1).offset
          + Tco.Access.startupLatency m.rate m.baseRate = s.startFrame := by
  obtain ⟨code, start, -, hresolve, hlow, hhigh⟩ := Request.start?_eq_ok hr hm
  obtain ⟨k, hschedule, hlands⟩ := hm.inReach.exists_startAt hresolve hlow hhigh
  have hrange := hlands.offset_inRange hshort hlong
  have hasks := asksFor_withRequest hrange.1 hrange.2 t.cache.q1
  obtain ⟨p, hperiod, hwarnings, hwrites⟩ := Output.period_eq_ok hschedule o t
  refine ⟨_, p, _, hschedule, hperiod, hrange, ?_, ?_, hasks, ?_⟩
  · rw [hwarnings, warningsOf_eq_nil_iff]
    exact hrange
  · rw [hwrites, launch, writeOf, (timeCode_isValid_of_schedule? hschedule).writable_code, writeOf]
  · have hoffset := hlands.offset_eq
    rw [hasks.offset_eq, hm.inReach.current_eq, m.period_eq]
    omega

/-- A period of 16 samples at single speed and a startup as long leave no margin: hardware is to
start right at the next interrupt. -/
theorem Output.period_hands_over_no_margin :
    (⟨⟨0x10000000⟩, 64⟩ : Request).Fits
      ∧ (⟨0, 32, 2, .hz48000, .fps24, false, 0⟩ : Moment).Fits
      ∧ 16 ≤ (⟨0, 32, 2, .hz48000, .fps24, false, 0⟩ : Moment).period
      ∧ ∃ p q1, Output.period { pending := some ⟨⟨0x10000000⟩, 64⟩, armed := true }
          (⟨default, { q1 := 0xfffffeff }, { device := {} }⟩ : Target (Recorded Scripted))
          ⟨0, 32, 2, .hz48000, .fps24, false, 0⟩ = .ok p
        ∧ p.warnings = [] ∧ AsksFor 0 0xfffffeff q1
        ∧ p.target.device.writes
          = [(132, 0x00007e7f), (128, 0x10000000), (132, q1), (136, 0x00010000)] := by
  have hrequest : (⟨⟨0x10000000⟩, 64⟩ : Request).Fits :=
    { le_target := by decide
      target_lt := by decide
      abs_target_lt := fun hclock => absurd hclock (by decide) }
  have hmoment : (⟨0, 32, 2, .hz48000, .fps24, false, 0⟩ : Moment).Fits :=
    { frames_lt := by decide
      periodSize_lt := by decide
      now_lt := by decide }
  have hshort : 16 ≤ (⟨0, 32, 2, .hz48000, .fps24, false, 0⟩ : Moment).period := by decide
  have hstart : schedule? ⟨⟨0x10000000⟩, 64⟩ ⟨0, 32, 2, .hz48000, .fps24, false, 0⟩
      = .ok ⟨⟨0x10000000⟩, 32, 0, 0⟩ := by rfl
  obtain ⟨s, p, q1, hschedule, hperiod, -, hwarnings, hwrites, hasks, -⟩ :=
    Output.period_hands_over hrequest hmoment hshort (by decide) { armed := true }
      (⟨default, { q1 := 0xfffffeff }, { device := {} }⟩ : Target (Recorded Scripted))
  obtain rfl := Except.ok.inj (hstart.symm.trans hschedule)
  exact ⟨hrequest, hmoment, hshort, p, q1, hperiod, hwarnings, hasks, hwrites⟩

end Ltc

end TimecodeCard
