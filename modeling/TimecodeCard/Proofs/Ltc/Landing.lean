import Mathlib.Tactic
import TimecodeCard.Ltc.Schedule
import TimecodeCard.Proofs.TimeCode.Stepping

/-!
# The output starts in its window, with the time code in phase

A request resolves to a time code and the frame at which it would start (`Request.Origin`).
The schedule moves both by the same number of time code frames, so that the start lands in the
window of one frame's length from `Moment.earliest` (`Moment.Lands`).

The main result is `schedule?_lands`: no step of the computation leaves its word, the landing
is right wherever the request was before, and the number of frames is the only one which leads
there. It is assembled from one lemma for each part of the schedule: `Request.start?_eq_ok`
resolves the request, `shift?_eq_ok` finds the number of frames, `schedule?_eq_ok` adds up the
rest, and `addFrames_asSigned32_withinDay` says that the time code gets the whole number of frames,
though it is handed on in 32 bits: whole days do not matter, and less than a day is left without
them.

Positions are bounded by `Moment.Fits` and `Request.Fits`. Half of the signed words is enough
for each of the sums. The parts need less than that: `Moment.InReach` lets the position go beyond
its bound by a turn of the hardware pointer or two, and of a request only one thing matters,
whether the real time clock with its offset leaves the signed word (`Request.Overruns`). Exactly
then there is no schedule (`Moment.InReach.exists_schedule?_iff`).
-/

namespace TimecodeCard.Ltc

variable {r : Request} {m : Moment}

/-! ## Where an output starts -/

/-- Whether the numbers of the moment are within their words, and the absolute frame within a
quarter of its word. -/
structure Moment.Fits (m : Moment) : Prop where
  frames_lt : m.frames < 2 ^ 62
  periodSize_lt : m.periodSize < 2 ^ 32
  now_lt : m.now < 2 ^ 64

/-- Whether the target is within its word, and an offset against UTC within half of it. -/
structure Request.Fits (r : Request) : Prop where
  le_target : -2 ^ 63 ≤ r.target
  target_lt : r.target < 2 ^ 63
  abs_target_lt : r.timeCode.IsWallClock → |r.target| < 2 ^ 62

/-- Whether the sums of a schedule are within their words. -/
structure Moment.InReach (m : Moment) : Prop where
  frames_lt : m.frames < 2 ^ 62 + 2 ^ 16
  periodSize_lt : m.periodSize < 2 ^ 32

lemma Moment.Fits.inReach (h : m.Fits) : m.InReach where
  frames_lt := Nat.lt_add_right _ h.frames_lt
  periodSize_lt := h.periodSize_lt

/-- Whether the target is within its word. -/
structure Request.InRange (r : Request) : Prop where
  le_target : -2 ^ 63 ≤ r.target
  target_lt : r.target < 2 ^ 63

/-- Whether the seconds of the real time clock and the offset add up beyond the signed word. -/
def Request.Overruns (r : Request) (now : Nat) : Prop :=
  r.timeCode.IsWallClock ∧ 2 ^ 63 ≤ ((now / nanosPerSecond : Nat) : Int) + r.target

lemma Request.Fits.inRange (h : r.Fits) : r.InRange where
  le_target := h.le_target
  target_lt := h.target_lt

lemma Request.Fits.not_overruns (hr : r.Fits) (hm : m.Fits) : ¬ r.Overruns m.now := by
  rintro ⟨hclock, hle⟩
  obtain ⟨hlow, hhigh⟩ := abs_lt.mp (hr.abs_target_lt hclock)
  have hseconds : m.now / nanosPerSecond < 2 ^ 62 := by
    have hnow := hm.now_lt
    unfold nanosPerSecond
    omega
  omega

/-- The time code which the request stands for at the moment, and the frame at which it would
start. -/
inductive Request.Origin (r : Request) (m : Moment) : TimeCode → Int → Prop
  /-- The whole seconds of the time of day, from the start of the current second. -/
  | wallClock {f : Fields} (hclock : r.timeCode.IsWallClock)
      (hminutes : f.minutes < 60) (hseconds : f.seconds < 60) (hframes : f.frames = 0)
      (htime : (f.secondOfDay : Int) = ((m.now / nanosPerSecond : Nat) + r.target) % 86400) :
      r.Origin m (.ofFields f)
        (m.frames / m.factor - (m.now % nanosPerSecond / (nanosPerSecond / m.baseRate.hz) : Nat))
  /-- The time code itself, at once. -/
  | atOnce (hclock : ¬ r.timeCode.IsWallClock) (htarget : r.target < 0) :
      r.Origin m r.timeCode (m.frames / m.factor)
  /-- The time code itself, at its target. -/
  | atTarget (hclock : ¬ r.timeCode.IsWallClock) (htarget : 0 ≤ r.target) :
      r.Origin m r.timeCode (r.target / m.factor)

/-- The first frame at which an output may start, two periods after the current one. -/
def Moment.earliest (m : Moment) : Int :=
  m.frames / m.factor + 2 * (m.periodSize / m.factor)

/-- Whether the scheduled start is the right one for the time code and the frame at which it
would start. -/
structure Moment.Lands (m : Moment) (code : TimeCode) (start : Int) (s : Scheduled) : Prop where
  earliest_le : m.earliest ≤ s.startFrame
  startFrame_lt : s.startFrame < m.earliest + m.frameSize
  startFrame_eq : s.startFrame = start + s.shift * m.frameSize
  /-- No other number of frames leads into the window. -/
  shift_unique : ∀ k : Int, m.earliest ≤ start + k * m.frameSize →
    start + k * m.frameSize < m.earliest + m.frameSize → k = s.shift
  offset_eq : s.offset = s.startFrame - (m.frames / m.factor + m.periodSize / m.factor)
    - Tco.Access.startupLatency m.rate m.baseRate
  timeCode_eq : code.IsValid m.counting → s.timeCode = TimeCode.steps m.counting s.shift code

/-! ## The moment at single speed -/

lemma asSigned64_eq {n : Nat} (hn : n < 2 ^ 63) : Word.asSigned64 n = n := by
  unfold Word.asSigned64
  exact Int.bmod_eq_of_le_mul_two (by omega) (by omega)

lemma frameSize_bounds (rate : FrameRate) (base : Tco.BaseRate) :
    1470 ≤ rate.frameSize base.hz ∧ rate.frameSize base.hz ≤ 2002 := by
  cases rate <;> cases base <;> decide

lemma startupLatency_le (rate : FrameRate) (base : Tco.BaseRate) :
    Tco.Access.startupLatency rate base ≤ 16 := by
  cases rate <;> cases base <;> decide

namespace Moment

lemma one_le_factor (m : Moment) : 1 ≤ m.factor :=
  le_max_right _ _

/-- Dividing a position by the speed keeps it within its bounds. -/
lemma div_factor_le (m : Moment) {x : Int} (hx : 0 ≤ x) :
    0 ≤ x / m.factor ∧ x / m.factor ≤ x := by
  have hfactor := m.one_le_factor
  exact ⟨Int.ediv_nonneg hx (by omega), Int.ediv_le_self _ hx⟩

lemma InReach.current_eq (h : m.InReach) : m.current = m.frames / m.factor := by
  rw [current, asSigned64_eq (lt_trans h.frames_lt (by decide)),
    Int.tdiv_eq_ediv_of_nonneg (by omega)]

lemma period_eq (m : Moment) : m.period = m.periodSize / m.factor := by
  rw [period, Int.tdiv_eq_ediv_of_nonneg (by omega)]

lemma frameSize_bounds (m : Moment) : 1470 ≤ m.frameSize ∧ m.frameSize ≤ 2002 := by
  have hbounds := Ltc.frameSize_bounds m.rate m.baseRate
  rw [frameSize]
  omega

lemma one_le_fps (m : Moment) : 1 ≤ m.counting.fps := by
  show 1 ≤ m.rate.fps
  cases m.rate <;> decide

lemma fps_le (m : Moment) : m.counting.fps ≤ 40 := by
  show m.rate.fps ≤ 40
  cases m.rate <;> decide

end Moment

/-! ## The parts of the schedule -/

lemma fitSigned64_eq_ok {x : Int} (hle : -2 ^ 63 ≤ x) (hlt : x < 2 ^ 63) :
    Word.fitSigned64 x = .ok x :=
  Word.fitSigned64_eq_ok_iff.mpr ⟨⟨hle, hlt⟩, rfl⟩

/-- The time of the real time clock shows the second of the day, unless it overruns. -/
lemma wallClockTime?_eq_ok {now : Nat} {offset : Int} (hoffset : -2 ^ 63 ≤ offset)
    (hsum : ((now / nanosPerSecond : Nat) : Int) + offset < 2 ^ 63) :
    ∃ f : Fields, wallClockTime? now offset = .ok (.ofFields f)
      ∧ f.minutes < 60 ∧ f.seconds < 60 ∧ f.frames = 0
      ∧ (f.secondOfDay : Int) = ((now / nanosPerSecond : Nat) + offset) % 86400 := by
  rw [wallClockTime?]
  generalize now / nanosPerSecond = seconds at *
  rw [fitSigned64_eq_ok (by omega) (by omega)]
  refine ⟨_, rfl, Nat.mod_lt _ (by omega), Nat.mod_lt _ (by omega), rfl, ?_⟩
  simp only [Fields.secondOfDay, Fields.minuteOfDay]
  omega

/-- A second lasts fewer samples than its rate by a little at most. -/
lemma elapsedSamples_lt (now : Nat) (rate : Tco.BaseRate) :
    now % nanosPerSecond / (nanosPerSecond / rate.hz) < 2 ^ 16 := by
  unfold nanosPerSecond
  cases rate <;> simp only [Tco.BaseRate.hz] <;> omega

/-- Every request which does not overrun resolves, to a frame which is hardly negative. -/
lemma Request.InRange.start?_eq_ok (hr : r.InRange) (hclock : ¬ r.Overruns m.now)
    (hm : m.InReach) :
    ∃ code start, r.Origin m code start ∧ r.start? m = .ok (code, start)
      ∧ -2 ^ 16 ≤ start ∧ start < 2 ^ 63 := by
  have hframes := hm.frames_lt
  have hcurrent := m.div_factor_le (x := m.frames) (by omega)
  by_cases hwall : r.timeCode.IsWallClock
  · have hsum : ((m.now / nanosPerSecond : Nat) : Int) + r.target < 2 ^ 63 := by
      by_contra hle
      exact hclock ⟨hwall, Int.not_lt.mp hle⟩
    obtain ⟨f, hcode, hminutes, hseconds, hzero, htime⟩ := wallClockTime?_eq_ok hr.le_target hsum
    have hsamples := elapsedSamples_lt m.now m.baseRate
    refine ⟨_, _, .wallClock hwall hminutes hseconds hzero htime, ?_⟩
    rw [start?, if_pos hwall, hcode, hm.current_eq]
    simp only [bind, Except.bind]
    generalize m.now % nanosPerSecond / (nanosPerSecond / m.baseRate.hz) = samples at *
    rw [fitSigned64_eq_ok (by omega) (by omega)]
    exact ⟨rfl, by omega, by omega⟩
  · by_cases htarget : r.target < 0
    · refine ⟨_, _, .atOnce hwall htarget, ?_, by omega, by omega⟩
      rw [start?, if_neg hwall, if_pos htarget, hm.current_eq]
      rfl
    · have hlt := hr.target_lt
      have hstart := m.div_factor_le (x := r.target) (by omega)
      refine ⟨_, _, .atTarget hwall (by omega), ?_, by omega, by omega⟩
      rw [start?, if_neg hwall, if_neg htarget, Int.tdiv_eq_ediv_of_nonneg (by omega)]
      rfl

lemma Request.start?_eq_ok (hr : r.Fits) (hm : m.Fits) :
    ∃ code start, r.Origin m code start ∧ r.start? m = .ok (code, start)
      ∧ -2 ^ 16 ≤ start ∧ start < 2 ^ 63 :=
  hr.inRange.start?_eq_ok (hr.not_overruns hm) hm.inReach

/-- The shift leads into the window, from above by rounding down and from below by rounding
up. -/
lemma shift?_eq_ok {start lower size : Int} (hsize : 0 < size) (hsize' : size ≤ 2 ^ 12)
    (hlower : 0 ≤ lower) (hlower' : lower ≤ 2 ^ 62 + 2 ^ 34) (hstart : -2 ^ 16 ≤ start)
    (hstart' : start < 2 ^ 63) :
    ∃ k, shift? start lower size = .ok k
      ∧ lower ≤ start + k * size ∧ start + k * size < lower + size := by
  rw [shift?, fitSigned64_eq_ok (by omega) (by omega)]
  simp only [bind, Except.bind]
  by_cases habove : lower + size ≤ start
  · rw [if_pos habove, fitSigned64_eq_ok (by omega) (by omega)]
    refine ⟨_, rfl, ?_⟩
    rw [Int.tdiv_eq_ediv_of_nonneg (by omega), neg_mul]
    have hsplit := Int.ediv_mul_add_emod (start - lower) size
    have hnonneg := Int.emod_nonneg (start - lower) hsize.ne'
    have hlt := Int.emod_lt_of_pos (start - lower) hsize
    omega
  · rw [if_neg habove]
    by_cases hbelow : start < lower
    · rw [if_pos hbelow, fitSigned64_eq_ok (by omega) (by omega)]
      simp only
      rw [fitSigned64_eq_ok (by omega) (by omega)]
      simp only
      rw [fitSigned64_eq_ok (by omega) (by omega)]
      refine ⟨_, rfl, ?_⟩
      rw [Int.tdiv_eq_ediv_of_nonneg (by omega)]
      have hsplit := Int.ediv_mul_add_emod (lower - start + size - 1) size
      have hnonneg := Int.emod_nonneg (lower - start + size - 1) hsize.ne'
      have hlt := Int.emod_lt_of_pos (lower - start + size - 1) hsize
      omega
    · rw [if_neg hbelow]
      exact ⟨0, rfl, by omega, by omega⟩

lemma shift_unique {start lower size k l : Int} (hsize : 0 < size)
    (hk : lower ≤ start + k * size) (hk' : start + k * size < lower + size)
    (hl : lower ≤ start + l * size) (hl' : start + l * size < lower + size) : k = l := by
  have hle : k < l + 1 := by
    refine lt_of_mul_lt_mul_right ?_ hsize.le
    rw [add_mul, one_mul]
    omega
  have hge : l < k + 1 := by
    refine lt_of_mul_lt_mul_right ?_ hsize.le
    rw [add_mul, one_mul]
    omega
  omega

/-! ## Whole days -/

section WithinDay

variable {c : Counting} {t : TimeCode}

lemma withinDay_emod (c : Counting) (k : Int) :
    withinDay c k % c.framesPerDay = k % c.framesPerDay := by
  rw [withinDay]
  split
  · rw [Int.sub_emod_right, Int.emod_emod_of_dvd _ dvd_rfl]
  · rw [Int.emod_emod_of_dvd _ dvd_rfl]

/-- The reduced shift is at most half a day either way. -/
lemma two_mul_abs_withinDay_le (hpos : 1 ≤ c.fps) (k : Int) :
    2 * |withinDay c k| ≤ c.framesPerDay := by
  obtain ⟨hnonneg, hlt⟩ := c.emod_framesPerDay_bounds hpos k
  rw [withinDay]
  split
  · rw [abs_of_nonpos (by omega)]
    omega
  · rw [abs_of_nonneg hnonneg]
    omega

/-- Half a day has far fewer frames than 32 bits hold, whatever the shift was. -/
lemma asSigned32_withinDay (hpos : 1 ≤ c.fps) (hfit : c.fps ≤ 40) (k : Int) :
    Word.asSigned32 (withinDay c k) = withinDay c k := by
  -- A day has less than 2 ^ 22 frames at any of these rates.
  have hday := c.framesPerDay_le hfit
  have hhalf := two_mul_abs_withinDay_le hpos k
  obtain ⟨hlow, hhigh⟩ := abs_le.mp (le_refl |withinDay c k|)
  rw [Word.asSigned32]
  exact Int.bmod_eq_of_le_mul_two (by omega) (by omega)

/-- The time code moves by the whole shift, although only what is left of it without whole days is
handed on. -/
lemma addFrames_asSigned32_withinDay (hpos : 1 ≤ c.fps) (hfit : c.fps ≤ 40) (t : TimeCode)
    (k : Int) : t.addFrames c (Word.asSigned32 (withinDay c k)) = t.addFrames c k := by
  rw [asSigned32_withinDay hpos hfit, TimeCode.addFrames, TimeCode.addFrames,
    TimeCode.ofFrameNumber_eq hpos, TimeCode.ofFrameNumber_eq hpos, Int.add_emod, withinDay_emod,
    ← Int.add_emod]

end WithinDay

/-! ## The schedule -/

/-- The start so many frames from where the request resolves to. -/
def Moment.startAt (m : Moment) (code : TimeCode) (start k : Int) : Scheduled where
  timeCode := code.addFrames m.counting k
  startFrame := start + k * m.frameSize
  shift := k
  offset := start + k * m.frameSize - (m.frames / m.factor + m.periodSize / m.factor)
    - Tco.Access.startupLatency m.rate m.baseRate

variable {code : TimeCode} {start k : Int}

lemma Moment.lands_startAt (hle : m.earliest ≤ start + k * m.frameSize)
    (hlt : start + k * m.frameSize < m.earliest + m.frameSize) :
    m.Lands code start (m.startAt code start k) where
  earliest_le := hle
  startFrame_lt := hlt
  startFrame_eq := rfl
  shift_unique l hl hl' := by
    have hsize := m.frameSize_bounds
    exact shift_unique (by omega) hl hl' hle hlt
  offset_eq := rfl
  timeCode_eq hvalid := hvalid.addFrames_eq_steps m.one_le_fps m.fps_le k

lemma Moment.InReach.earliest_bounds (h : m.InReach) :
    0 ≤ m.earliest ∧ m.earliest ≤ 2 ^ 62 + 2 ^ 34 := by
  have hframes := h.frames_lt
  have hperiodSize := h.periodSize_lt
  have hcurrent := m.div_factor_le (x := m.frames) (by omega)
  have hperiod := m.div_factor_le (x := m.periodSize) (by omega)
  unfold Moment.earliest
  omega

lemma Moment.Fits.earliest_bounds (h : m.Fits) :
    0 ≤ m.earliest ∧ m.earliest ≤ 2 ^ 62 + 2 ^ 34 :=
  h.inReach.earliest_bounds

/-- Once the shift into the window is known, no sum that is left can leave its word, and the time
code gets all of the shift. -/
lemma Moment.InReach.schedule?_eq_ok (hm : m.InReach) (hresolve : r.start? m = .ok (code, start))
    (hlow : -2 ^ 16 ≤ start) (hhigh : start < 2 ^ 63)
    (hshift : shift? start m.earliest m.frameSize = .ok k)
    (hle : m.earliest ≤ start + k * m.frameSize)
    (hlt : start + k * m.frameSize < m.earliest + m.frameSize) :
    schedule? r m = .ok (m.startAt code start k) := by
  have hframes := hm.frames_lt
  have hperiodSize := hm.periodSize_lt
  have hcurrent := m.div_factor_le (x := m.frames) (by omega)
  have hperiod := m.div_factor_le (x := m.periodSize) (by omega)
  have hsize := m.frameSize_bounds
  have hlatency := startupLatency_le m.rate m.baseRate
  have hearliest : m.earliest = m.frames / m.factor + 2 * (m.periodSize / m.factor) := rfl
  rw [schedule?, hresolve, hm.current_eq, m.period_eq]
  simp only [bind, Except.bind]
  -- The checks come in the order of the computation, two before the shift and five after it.
  rw [fitSigned64_eq_ok (by omega) (by omega)]
  simp only
  rw [fitSigned64_eq_ok (by omega) (by omega), ← hearliest]
  simp only [hshift]
  rw [fitSigned64_eq_ok (by omega) (by omega)]
  simp only
  rw [fitSigned64_eq_ok (by omega) (by omega)]
  simp only
  rw [fitSigned64_eq_ok (by omega) (by omega)]
  simp only
  rw [fitSigned64_eq_ok (by omega) (by omega)]
  simp only
  rw [fitSigned64_eq_ok (by omega) (by omega)]
  simp only [addFrames_asSigned32_withinDay m.one_le_fps m.fps_le]
  rfl

lemma schedule?_eq_ok (hm : m.Fits) (hresolve : r.start? m = .ok (code, start))
    (hlow : -2 ^ 16 ≤ start) (hhigh : start < 2 ^ 63)
    (hshift : shift? start m.earliest m.frameSize = .ok k)
    (hle : m.earliest ≤ start + k * m.frameSize)
    (hlt : start + k * m.frameSize < m.earliest + m.frameSize) :
    schedule? r m = .ok (m.startAt code start k) :=
  hm.inReach.schedule?_eq_ok hresolve hlow hhigh hshift hle hlt

/-- Wherever the request resolves to, some number of frames leads into the window. -/
lemma Moment.InReach.exists_startAt (hm : m.InReach) (hresolve : r.start? m = .ok (code, start))
    (hlow : -2 ^ 16 ≤ start) (hhigh : start < 2 ^ 63) :
    ∃ k, schedule? r m = .ok (m.startAt code start k)
      ∧ m.Lands code start (m.startAt code start k) := by
  obtain ⟨hnonneg, hbound⟩ := hm.earliest_bounds
  have hsize := m.frameSize_bounds
  obtain ⟨k, hshift, hle, hlt⟩ : ∃ k, shift? start m.earliest m.frameSize = .ok k
      ∧ m.earliest ≤ start + k * m.frameSize
      ∧ start + k * m.frameSize < m.earliest + m.frameSize :=
    shift?_eq_ok (by omega) (by omega) hnonneg hbound hlow hhigh
  exact ⟨k, hm.schedule?_eq_ok hresolve hlow hhigh hshift hle hlt, Moment.lands_startAt hle hlt⟩

/-- A request has a start, unless the real time clock overruns. -/
theorem Moment.InReach.exists_schedule?_iff (hm : m.InReach) (hr : r.InRange) :
    (∃ s, schedule? r m = .ok s) ↔ ¬ r.Overruns m.now := by
  constructor
  · rintro ⟨s, hschedule⟩ ⟨hwall, hle⟩
    have hfault : Word.fitSigned64 ((m.now / nanosPerSecond : Nat) + r.target)
        = .error .overflow := by
      rw [Word.fitSigned64, if_neg]
      omega
    rw [schedule?, Request.start?, if_pos hwall, wallClockTime?, hfault] at hschedule
    cases hschedule
  · intro hclock
    obtain ⟨code, start, -, hresolve, hlow, hhigh⟩ := hr.start?_eq_ok hclock hm
    obtain ⟨k, hschedule, -⟩ := hm.exists_startAt hresolve hlow hhigh
    exact ⟨_, hschedule⟩

/-- **The output starts in phase.** Every request whose numbers fit their words has a start. It
lies in the window of one frame's length which opens two periods after the current frame, a
whole number of time code frames away from where the request resolves to, and the time code is
the one so many single steps away. -/
theorem schedule?_lands (hr : r.Fits) (hm : m.Fits) :
    ∃ code start s, r.Origin m code start ∧ schedule? r m = .ok s ∧ m.Lands code start s := by
  obtain ⟨code, start, horigin, hresolve, hlow, hhigh⟩ := Request.start?_eq_ok hr hm
  obtain ⟨hnonneg, hbound⟩ := hm.earliest_bounds
  have hsize := m.frameSize_bounds
  obtain ⟨k, hshift, hle, hlt⟩ : ∃ k, shift? start m.earliest m.frameSize = .ok k
      ∧ m.earliest ≤ start + k * m.frameSize
      ∧ start + k * m.frameSize < m.earliest + m.frameSize :=
    shift?_eq_ok (by omega) (by omega) hnonneg hbound hlow hhigh
  exact ⟨code, start, m.startAt code start k, horigin,
    schedule?_eq_ok hm hresolve hlow hhigh hshift hle hlt, Moment.lands_startAt hle hlt⟩

/-- So far ahead that 32 bits do not hold the number of frames, with dropped numbers. -/
theorem schedule?_lands_beyond_32_bits :
    (⟨⟨0x01000000⟩, 0x4000000000000000⟩ : Request).Fits
      ∧ (⟨4000000, 128, 1, .hz48000, .fps30, true, 0⟩ : Moment).Fits
      ∧ ∃ code start s,
        Request.Origin ⟨⟨0x01000000⟩, 0x4000000000000000⟩
            ⟨4000000, 128, 1, .hz48000, .fps30, true, 0⟩ code start
          ∧ schedule? ⟨⟨0x01000000⟩, 0x4000000000000000⟩
            ⟨4000000, 128, 1, .hz48000, .fps30, true, 0⟩ = .ok s
          ∧ Moment.Lands ⟨4000000, 128, 1, .hz48000, .fps30, true, 0⟩ code start s := by
  have hrequest : (⟨⟨0x01000000⟩, 0x4000000000000000⟩ : Request).Fits :=
    { le_target := by decide
      target_lt := by decide
      abs_target_lt := fun hclock => absurd hclock (by decide) }
  have hmoment : (⟨4000000, 128, 1, .hz48000, .fps30, true, 0⟩ : Moment).Fits :=
    { frames_lt := by decide
      periodSize_lt := by decide
      now_lt := by decide }
  exact ⟨hrequest, hmoment, schedule?_lands hrequest hmoment⟩

example : schedule? ⟨⟨0x01000000⟩, 0x4000000000000000⟩
    ⟨4000000, 128, 1, .hz48000, .fps30, true, 0⟩
      = .ok ⟨⟨0x00413707⟩, 4000704, -2882303761514617, 562⟩ := by
  rfl

/-- The lower 32 bits of that number lead elsewhere. -/
example : (⟨0x01000000⟩ : TimeCode).addFrames ⟨30, true⟩ (Word.asSigned32 (-2882303761514617))
    ≠ ⟨0x00413707⟩ := by
  decide

end TimecodeCard.Ltc
