import Mathlib.Tactic
import TimecodeCard.Proofs.Ltc.Landing
import TimecodeCard.Proofs.TimeCode.Enumeration

/-!
# Output of the real time clock is on time

A request for the real time clock starts with the current second, and the time code of that is
exact. The samples since the second began are not: they are counted with a sample period which is
truncated to whole nanoseconds, so that the count runs ahead of the time by more and more, up to a
sample and a half at the end of the second. Rounding down takes less than one sample off.

From there the start moves by whole time code frames. Where these have a whole number of samples
(`Moment.WholeFrames`) nothing else is ever rounded, however far the start moves, and the time code
moves along with it over midnight in either direction.

The main result is `schedule?_onTime`: the time code starts less than two samples away from an
instant at which the clock, moved by the offset against UTC, shows it (`ClockShows`).
-/

namespace TimecodeCard.Ltc

variable {r : Request} {m : Moment} {c : Counting} {f : Fields}

/-! ## Being on time -/

/-- Whether a time code frame has a whole number of samples. -/
def Moment.WholeFrames (m : Moment) : Prop :=
  m.rate.fps * m.rate.scale ∣ m.baseRate.hz * 1000

instance (m : Moment) : Decidable m.WholeFrames :=
  inferInstanceAs (Decidable (_ ∣ _))

/-- Whether the real time clock, moved by the offset in seconds, shows the fields at the instant in
nanoseconds since the epoch. -/
def ClockShows (fps : Nat) (offset : Int) (f : Fields) (instant : ℚ) : Prop :=
  ∃ days : Int, instant / nanosPerSecond + offset
    = f.secondOfDay + f.frames / fps + 86400 * days

/-- Whether the scheduled time code is that of the clock at the scheduled start. -/
structure Moment.OnTime (m : Moment) (offset : Int) (s : Scheduled) : Prop where
  isValid : s.timeCode.IsValid m.counting
  /-- The time code is that of the current second, as many frames later as the start moved. -/
  frameNumber_eq : (s.timeCode.frameNumber m.counting : Int)
    = (((m.now / nanosPerSecond : Nat) + offset) % 86400 * m.rate.fps + s.shift)
      % (86400 * m.rate.fps)
  /-- The start is that of the current second, as many frames later, in samples. -/
  abs_sub_lt : |(s.startFrame - m.current : ℚ)
    - (s.shift * m.baseRate.hz / m.rate.fps
      - (m.now % nanosPerSecond : Nat) * m.baseRate.hz / nanosPerSecond)| < 2
  /-- The start is an instant, in samples from now, at which the clock shows the time code. -/
  exists_instant : ∃ instant : ℚ, ClockShows m.rate.fps offset s.timeCode.fields instant
    ∧ |(s.startFrame - m.current : ℚ) - (instant - m.now) * m.baseRate.hz / nanosPerSecond| < 2

/-! ## Samples of a second -/

lemma nanosPerSecond_pos : (0 : ℚ) < nanosPerSecond := by
  norm_num [nanosPerSecond]

/-- The product form: neither bound divides by anything but the truncated sample period. -/
lemma elapsed_mul_bounds (base : Tco.BaseRate) {nanos : Nat} (hlt : nanos < nanosPerSecond) :
    nanos / (nanosPerSecond / base.hz) * nanosPerSecond < nanos * base.hz + 2 * nanosPerSecond
      ∧ nanos * base.hz
        < nanos / (nanosPerSecond / base.hz) * nanosPerSecond + 2 * nanosPerSecond := by
  unfold nanosPerSecond at *
  cases base <;> simp only [Tco.BaseRate.hz] <;> omega

/-- Within a second the samples are counted to less than two. -/
lemma abs_elapsed_sub_lt (base : Tco.BaseRate) {nanos : Nat} (hlt : nanos < nanosPerSecond) :
    |((nanos / (nanosPerSecond / base.hz) : Nat) : ℚ) - nanos * base.hz / nanosPerSecond| < 2 := by
  obtain ⟨habove, hbelow⟩ := elapsed_mul_bounds base hlt
  generalize nanos / (nanosPerSecond / base.hz) = samples at *
  have habove' : (samples * nanosPerSecond : ℚ) < nanos * base.hz + 2 * nanosPerSecond := by
    exact_mod_cast habove
  have hbelow' : (nanos * base.hz : ℚ) < samples * nanosPerSecond + 2 * nanosPerSecond := by
    exact_mod_cast hbelow
  rw [abs_sub_lt_iff]
  constructor
  · rw [sub_lt_comm, lt_div_iff₀ nanosPerSecond_pos]
    linarith
  · rw [sub_lt_iff_lt_add, div_lt_iff₀ nanosPerSecond_pos]
    linarith

lemma Moment.WholeFrames.frameSize_mul_fps (h : m.WholeFrames) :
    m.frameSize * m.rate.fps = m.baseRate.hz := by
  rw [WholeFrames] at h
  rw [frameSize, FrameRate.frameSize]
  generalize m.rate = rate, m.baseRate = base at *
  cases rate <;> cases base <;> revert h <;> decide

lemma Moment.WholeFrames.frameSize_eq (h : m.WholeFrames) :
    (m.frameSize : ℚ) = m.baseRate.hz / m.rate.fps := by
  have hfps : (0 : ℚ) < m.rate.fps := by exact_mod_cast m.one_le_fps
  rw [eq_div_iff hfps.ne']
  exact_mod_cast h.frameSize_mul_fps

/-! ## Numbers of whole seconds -/

/-- A second starts with a number that is shown, and a whole number of seconds counts up to it. -/
lemma frameNumber_ofFields_of_frames_eq_zero (hpos : 1 ≤ c.fps) (hfit : c.fps ≤ 40)
    (hplain : ¬ c.Skips) (hday : f.secondOfDay < 86400) (hminutes : f.minutes < 60)
    (hseconds : f.seconds < 60) (hframes : f.frames = 0) :
    (TimeCode.ofFields f).frameNumber c = f.secondOfDay * c.fps := by
  have hshows : c.Shows f :=
    { hours_lt := by
        unfold Fields.secondOfDay Fields.minuteOfDay at hday
        omega
      minutes_lt := hminutes
      seconds_lt := hseconds
      frames_lt := hframes ▸ c.modulus_pos
      not_drops := fun hdrops => hplain hdrops.1 }
  have hfields := TimeCode.fields_ofFields_of_isTime hfit hshows.toIsTime
  rw [TimeCode.frameNumber_eq_number (hfields.symm ▸ hshows), hfields,
    Counting.number_of_not_skips hplain, hframes, Counting.modulus_eq_fps hpos, Nat.add_zero]

/-- A valid time code reads as its number of frames, in seconds. -/
lemma secondOfDay_add_frames_div (hpos : 1 ≤ c.fps) (hplain : ¬ c.Skips) {t : TimeCode}
    (h : t.IsValid c) :
    (t.fields.secondOfDay + t.fields.frames / c.fps : ℚ) = t.frameNumber c / c.fps := by
  have hfps : (0 : ℚ) < c.fps := by exact_mod_cast hpos
  rw [TimeCode.frameNumber_eq_number h.shows, Counting.number_of_not_skips hplain,
    Counting.modulus_eq_fps hpos, Nat.cast_add, Nat.cast_mul, add_div,
    mul_div_cancel_right₀ _ hfps.ne']

/-! ## The schedule -/

/-- The clock shows a time code with the right number so many frames from the current second. -/
lemma clockShows_of_frameNumber {offset shift : Int} {t : TimeCode} (hpos : 1 ≤ c.fps)
    (hplain : ¬ c.Skips) (h : t.IsValid c) (seconds : Nat)
    (hnumber : (t.frameNumber c : Int)
      = ((seconds + offset) % 86400 * c.fps + shift) % (86400 * c.fps)) :
    ClockShows c.fps offset t.fields ((seconds + shift / c.fps) * nanosPerSecond) := by
  have hfps : (0 : ℚ) < c.fps := by exact_mod_cast hpos
  have hsecond := nanosPerSecond_pos.ne'
  -- Days pass twice: in the seconds since the epoch, and in the frames which were added.
  have hdays := Int.emod_add_mul_ediv (seconds + offset) 86400
  have hframes := Int.emod_add_mul_ediv ((seconds + offset) % 86400 * c.fps + shift)
    (86400 * c.fps)
  rw [← hnumber] at hframes
  generalize (seconds + offset) % 86400 = time at *
  generalize (seconds + offset) / 86400 = days at *
  generalize (time * c.fps + shift) / (86400 * c.fps) = days' at *
  refine ⟨days + days', ?_⟩
  have hdays' : (time + 86400 * days : ℚ) = seconds + offset := by exact_mod_cast hdays
  have hframes' : (t.frameNumber c + 86400 * c.fps * days' : ℚ) = time * c.fps + shift := by
    exact_mod_cast hframes
  rw [secondOfDay_add_frames_div hpos hplain h, mul_div_cancel_right₀ _ hsecond, Int.cast_add]
  field_simp
  linear_combination -(c.fps : ℚ) * hdays' - hframes'

/-- The start of the current second, moved by whole frames, is exact but for the samples elapsed. -/
lemma Moment.Fits.abs_startAt_sub_lt (hm : m.Fits) (hwhole : m.WholeFrames) (code : TimeCode)
    (k : Int) :
    |((m.startAt code (m.frames / m.factor
          - (m.now % nanosPerSecond / (nanosPerSecond / m.baseRate.hz) : Nat)) k).startFrame
        - m.current : ℚ)
      - (k * m.baseRate.hz / m.rate.fps
        - (m.now % nanosPerSecond : Nat) * m.baseRate.hz / nanosPerSecond)| < 2 := by
  have helapsed := abs_elapsed_sub_lt m.baseRate (Nat.mod_lt m.now (by decide))
  rw [startAt, hm.inReach.current_eq, Int.cast_add, Int.cast_sub, Int.cast_mul, Int.cast_natCast,
    hwhole.frameSize_eq, mul_div_assoc]
  rw [abs_sub_comm] at helapsed
  convert helapsed using 2
  ring

/-- So many frames from the current second, in samples from now. -/
lemma Moment.sub_now_mul_hz (m : Moment) (k : Int) :
    (((m.now / nanosPerSecond : Nat) + k / m.rate.fps) * nanosPerSecond - m.now : ℚ)
        * m.baseRate.hz / nanosPerSecond
      = k * m.baseRate.hz / m.rate.fps
        - (m.now % nanosPerSecond : Nat) * m.baseRate.hz / nanosPerSecond := by
  have hsecond := nanosPerSecond_pos.ne'
  have hnow : (nanosPerSecond * (m.now / nanosPerSecond : Nat)
      + (m.now % nanosPerSecond : Nat) : ℚ) = m.now := by
    exact_mod_cast Nat.div_add_mod m.now nanosPerSecond
  rw [← hnow]
  field_simp
  ring

/-- **Output of the real time clock is on time.** Every request for the clock has a start, where the
offset against UTC is below half of its word, numbers are not dropped and frames have a whole number
of samples. The time code is that of the clock, and it starts less than two samples away from an
instant at which the clock shows it. -/
theorem schedule?_onTime (hclock : r.timeCode.IsWallClock) (hoffset : |r.target| < 2 ^ 62)
    (hm : m.Fits) (hplain : ¬ m.counting.Skips) (hwhole : m.WholeFrames) :
    ∃ s, schedule? r m = .ok s ∧ m.OnTime r.target s := by
  have hr : r.Fits :=
    { le_target := by rw [abs_lt] at hoffset; omega
      target_lt := by rw [abs_lt] at hoffset; omega
      abs_target_lt := fun _ => hoffset }
  have hpos := m.one_le_fps
  have hfit := m.fps_le
  obtain ⟨code, start, horigin, hresolve, hlow, hhigh⟩ := Request.start?_eq_ok hr hm
  obtain ⟨k, hschedule, -⟩ := hm.inReach.exists_startAt hresolve hlow hhigh
  cases horigin with
  | atOnce hnot => exact absurd hclock hnot
  | atTarget hnot => exact absurd hclock hnot
  | @wallClock f _ hminutes hseconds hframes htime =>
    have hvalid := TimeCode.isValid_addFrames hpos hfit (.ofFields f) k
    have hnumber : (((TimeCode.ofFields f).addFrames m.counting k).frameNumber m.counting : Int)
        = (((m.now / nanosPerSecond : Nat) + r.target) % 86400 * m.rate.fps + k)
          % (86400 * m.rate.fps) := by
      have hsecond := frameNumber_ofFields_of_frames_eq_zero hpos hfit hplain (by omega) hminutes
        hseconds hframes
      have hday : (m.counting.framesPerDay : Int) = 86400 * m.rate.fps := by
        rw [Counting.framesPerDay_of_not_skips hpos hplain, Counting.modulus_eq_fps hpos]
        rfl
      rw [TimeCode.addFrames, hsecond, TimeCode.frameNumber_ofFrameNumber hpos hfit, hday,
        Nat.cast_mul, htime]
      rfl
    have hstart := hm.abs_startAt_sub_lt hwhole (.ofFields f) k
    exact ⟨_, hschedule,
      { isValid := hvalid
        frameNumber_eq := hnumber
        abs_sub_lt := hstart
        exists_instant :=
          ⟨_, clockShows_of_frameNumber hpos hplain hvalid _ hnumber,
            (m.sub_now_mul_hz k).symm ▸ hstart⟩ }⟩

/-- The last nanosecond of a day an hour behind UTC: the time code is that of the next day. -/
theorem schedule?_onTime_before_midnight :
    (⟨0x3f7f7f3f⟩ : TimeCode).IsWallClock ∧ |(-3600 : Int)| < 2 ^ 62
      ∧ (⟨1000000, 1024, 1, .hz44100, .fps25, false, 1699923599999999999⟩ : Moment).Fits
      ∧ ¬ (⟨1000000, 1024, 1, .hz44100, .fps25, false, 1699923599999999999⟩ : Moment).counting.Skips
      ∧ (⟨1000000, 1024, 1, .hz44100, .fps25, false, 1699923599999999999⟩ : Moment).WholeFrames
      ∧ ∃ s, schedule? ⟨⟨0x3f7f7f3f⟩, -3600⟩
            ⟨1000000, 1024, 1, .hz44100, .fps25, false, 1699923599999999999⟩ = .ok s
        ∧ Moment.OnTime ⟨1000000, 1024, 1, .hz44100, .fps25, false, 1699923599999999999⟩
            (-3600) s := by
  have hclock : (⟨0x3f7f7f3f⟩ : TimeCode).IsWallClock := by decide
  have hmoment :
      (⟨1000000, 1024, 1, .hz44100, .fps25, false, 1699923599999999999⟩ : Moment).Fits :=
    { frames_lt := by decide
      periodSize_lt := by decide
      now_lt := by decide }
  exact ⟨hclock, by decide, hmoment, by decide, by decide,
    schedule?_onTime (r := ⟨_, _⟩) hclock (by decide) hmoment (by decide) (by decide)⟩

example : schedule? ⟨⟨0x3f7f7f3f⟩, -3600⟩
    ⟨1000000, 1024, 1, .hz44100, .fps25, false, 1699923599999999999⟩
      = .ok ⟨⟨0x00000002⟩, 1003527, 27, 2488⟩ := by
  rfl

end TimecodeCard.Ltc
