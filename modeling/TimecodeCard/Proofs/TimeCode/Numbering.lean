import Mathlib.Tactic
import TimecodeCard.TimeCode.FrameNumber

/-!
# The frames of a day are numbered one to one

A counting shows some of the times of day (`Counting.Shows`), and `Counting.number` gives the
place of each among them: the plain number of the frame, less the numbers left out up to its
minute. The numbering of `TimeCode.frameNumber` and `TimeCode.fieldsOfFrameNumber`, which goes
through blocks of ten minutes, agrees with it.

The main results are that `TimeCode.fieldsOfFrameNumber` and `Counting.number` are inverse to
each other between the fields which are shown and the numbers below `Counting.framesPerDay`:
`Counting.Shows.fieldsOfFrameNumber_number`, `Counting.shows_fieldsOfFrameNumber` and
`Counting.number_fieldsOfFrameNumber`. The section on packed words carries them over to
`TimeCode.IsValid`.

Each proof has two cases. Without dropped numbers the number of frames in a second is a
variable, so the quotient by it is taken first. With dropped numbers it is 30 and what is left
is linear.
-/

namespace TimecodeCard

/-! ## Times of day which are shown -/

namespace Fields

/-- The number of minutes since midnight. -/
def minuteOfDay (f : Fields) : Nat :=
  f.hours * 60 + f.minutes

/-- The number of seconds since midnight. -/
def secondOfDay (f : Fields) : Nat :=
  f.minuteOfDay * 60 + f.seconds

/-- The number of frames since the start of the minute, with the number of frames in a second. -/
def frameOfMinute (modulus : Nat) (f : Fields) : Nat :=
  f.seconds * modulus + f.frames

end Fields

namespace Counting

variable {c : Counting} {f : Fields} {n : Nat}

/-- Whether the fields are a time of day, with the frame within its second. -/
structure IsTime (c : Counting) (f : Fields) : Prop where
  hours_lt : f.hours < 24
  minutes_lt : f.minutes < 60
  seconds_lt : f.seconds < 60
  frames_lt : f.frames < c.modulus

/-- Whether the counting shows the number: it is a time of day and not left out. -/
structure Shows (c : Counting) (f : Fields) : Prop extends c.IsTime f where
  not_drops : ¬ c.Drops f

/-- How many numbers are left out from midnight up to the start of the minute, its own ones
included. -/
def leftOut (c : Counting) (minute : Nat) : Nat :=
  if c.Skips then 2 * (minute - minute / 10) else 0

/-- The place of a number among those which the counting shows. -/
def number (c : Counting) (f : Fields) : Nat :=
  f.secondOfDay * c.modulus + f.frames - c.leftOut f.minuteOfDay

lemma modulus_eq_fps (hpos : 1 ≤ c.fps) : c.modulus = c.fps := by
  unfold modulus
  omega

lemma number_of_not_skips (hskip : ¬ c.Skips) :
    c.number f = f.secondOfDay * c.modulus + f.frames := by
  simp [number, leftOut, hskip]

lemma number_of_not_skips_minutes (hskip : ¬ c.Skips) :
    c.number f = f.minuteOfDay * (60 * c.modulus) + f.frameOfMinute c.modulus := by
  rw [number_of_not_skips hskip, Fields.secondOfDay, Fields.frameOfMinute]
  ring

/-- With dropped numbers, the place at which frame 0 of the minute would stand: ten minutes count
17982 frames and each further minute 1798. -/
def minuteStart (minute : Nat) : Nat :=
  minute / 10 * 17982 + minute % 10 * 1798

/-- A minute has two frames more than 1798 if the next one leaves out none. -/
lemma minuteStart_succ (minute : Nat) :
    minuteStart (minute + 1)
      = minuteStart minute + if (minute + 1) % 10 = 0 then 1800 else 1798 := by
  unfold minuteStart
  split <;> omega

lemma number_of_skips (hskip : c.Skips) :
    c.number f = minuteStart f.minuteOfDay + f.frameOfMinute 30 := by
  rw [number, leftOut, if_pos hskip, hskip.modulus_eq, Fields.secondOfDay, Fields.frameOfMinute,
    minuteStart]
  omega

lemma framesPerDay_of_not_skips (hpos : 1 ≤ c.fps) (hskip : ¬ c.Skips) :
    c.framesPerDay = 86400 * c.modulus := by
  rw [framesPerDay, if_neg hskip, modulus_eq_fps hpos]
  ring

lemma framesPerDay_of_skips (hskip : c.Skips) : c.framesPerDay = 2589408 := by
  rw [framesPerDay, if_pos hskip]
  rfl

lemma framesPerDay_pos (hpos : 1 ≤ c.fps) : 0 < c.framesPerDay := by
  unfold framesPerDay tenMinutes
  split <;> omega

lemma framesPerDay_le (hfit : c.fps ≤ 40) : c.framesPerDay ≤ 3456000 := by
  unfold framesPerDay tenMinutes
  split <;> omega

lemma emod_framesPerDay_bounds (hpos : 1 ≤ c.fps) (n : Int) :
    0 ≤ n % c.framesPerDay ∧ n % c.framesPerDay < c.framesPerDay := by
  have hday := c.framesPerDay_pos hpos
  exact ⟨Int.emod_nonneg n (by omega), Int.emod_lt_of_pos n (by omega)⟩

lemma fieldsOfFrameNumber_of_first (hskip : c.Skips) (hfirst : n % 17982 < 1800) :
    TimeCode.fieldsOfFrameNumber c n =
      { hours := n / 17982 * 10 / 60
        minutes := n / 17982 * 10 % 60
        seconds := n % 17982 / 30
        frames := n % 17982 % 30 } := by
  rw [TimeCode.fieldsOfFrameNumber, if_pos hskip]
  exact if_pos hfirst

lemma fieldsOfFrameNumber_of_later (hskip : c.Skips) (hlater : ¬ n % 17982 < 1800) :
    TimeCode.fieldsOfFrameNumber c n =
      { hours := (n / 17982 * 10 + (1 + (n % 17982 - 1800) / 1798)) / 60
        minutes := (n / 17982 * 10 + (1 + (n % 17982 - 1800) / 1798)) % 60
        seconds := ((n % 17982 - 1800) % 1798 + 2) / 30
        frames := ((n % 17982 - 1800) % 1798 + 2) % 30 } := by
  rw [TimeCode.fieldsOfFrameNumber, if_pos hskip]
  exact if_neg hlater

/-! ## From fields to numbers and back -/

lemma IsTime.minuteOfDay_lt (h : c.IsTime f) : f.minuteOfDay < 1440 := by
  have hhours := h.hours_lt
  have hminutes := h.minutes_lt
  unfold Fields.minuteOfDay
  omega

lemma IsTime.minuteOfDay_split (h : c.IsTime f) :
    f.minuteOfDay / 60 = f.hours ∧ f.minuteOfDay % 60 = f.minutes := by
  have hminutes := h.minutes_lt
  unfold Fields.minuteOfDay
  omega

lemma IsTime.secondOfDay_split (h : c.IsTime f) :
    f.secondOfDay / 60 = f.minuteOfDay ∧ f.secondOfDay % 60 = f.seconds := by
  have hseconds := h.seconds_lt
  unfold Fields.secondOfDay
  omega

lemma IsTime.frameOfMinute_lt (h : c.IsTime f) :
    f.frameOfMinute c.modulus < 60 * c.modulus := by
  have hframes := h.frames_lt
  calc f.seconds * c.modulus + f.frames
      < f.seconds * c.modulus + c.modulus := by omega
    _ = (f.seconds + 1) * c.modulus := by ring
    _ ≤ 60 * c.modulus := Nat.mul_le_mul_right _ h.seconds_lt

lemma IsTime.frameOfMinute_split (h : c.IsTime f) (hskip : c.Skips) :
    f.frameOfMinute 30 / 30 = f.seconds ∧ f.frameOfMinute 30 % 30 = f.frames := by
  have hframes := h.frames_lt
  rw [hskip.modulus_eq] at hframes
  unfold Fields.frameOfMinute
  omega

lemma IsTime.frameOfMinute_lt_of_skips (h : c.IsTime f) (hskip : c.Skips) :
    f.frameOfMinute 30 < 1800 := by
  have hlt := h.frameOfMinute_lt
  rwa [hskip.modulus_eq] at hlt

/-- The numbers left out are the first two of a minute, except for every tenth one. -/
lemma IsTime.drops_iff (h : c.IsTime f) (hskip : c.Skips) :
    c.Drops f ↔ f.minuteOfDay % 10 ≠ 0 ∧ f.frameOfMinute 30 < 2 := by
  have hunits : f.minuteOfDay % 10 = f.minutes % 10 := by
    unfold Fields.minuteOfDay
    omega
  obtain ⟨hseconds, hframes⟩ := h.frameOfMinute_split hskip
  constructor
  · rintro ⟨-, hzero, htwo, hminutes⟩
    omega
  · rintro ⟨hminute, htwo⟩
    exact ⟨hskip, by omega, by omega, by omega⟩

/-- The first two frames of a minute are shown in every tenth minute only. -/
lemma Shows.two_le_frameOfMinute (h : c.Shows f) (hskip : c.Skips)
    (hminute : f.minuteOfDay % 10 ≠ 0) : 2 ≤ f.frameOfMinute 30 := by
  by_contra hlt
  exact h.not_drops ((h.drops_iff hskip).2 ⟨hminute, by omega⟩)

lemma IsTime.number_lt (hpos : 1 ≤ c.fps) (h : c.IsTime f) : c.number f < c.framesPerDay := by
  by_cases hskip : c.Skips
  · have hminute := h.minuteOfDay_lt
    have hframe := h.frameOfMinute_lt_of_skips hskip
    rw [number_of_skips hskip, framesPerDay_of_skips hskip, minuteStart]
    omega
  · have hframe := h.frameOfMinute_lt
    rw [number_of_not_skips_minutes hskip, framesPerDay_of_not_skips hpos hskip]
    calc f.minuteOfDay * (60 * c.modulus) + f.frameOfMinute c.modulus
        < f.minuteOfDay * (60 * c.modulus) + 60 * c.modulus := by omega
      _ = (f.minuteOfDay + 1) * (60 * c.modulus) := by ring
      _ ≤ 1440 * (60 * c.modulus) := Nat.mul_le_mul_right _ h.minuteOfDay_lt
      _ = 86400 * c.modulus := by ring

lemma IsTime.number_block (h : c.IsTime f) (hskip : c.Skips) :
    c.number f / 17982 = f.minuteOfDay / 10
      ∧ c.number f % 17982 = f.minuteOfDay % 10 * 1798 + f.frameOfMinute 30 := by
  have hframe := h.frameOfMinute_lt_of_skips hskip
  have hblock : f.minuteOfDay % 10 * 1798 + f.frameOfMinute 30 < 17982 := by omega
  rw [number_of_skips hskip, minuteStart, Nat.add_assoc]
  omega

/-- The fields of a number which is shown are found again from its place. -/
theorem Shows.fieldsOfFrameNumber_number (h : c.Shows f) :
    TimeCode.fieldsOfFrameNumber c (c.number f) = f := by
  obtain ⟨hhours, hminutes⟩ := h.minuteOfDay_split
  by_cases hskip : c.Skips
  · obtain ⟨hblock, hplace⟩ := h.number_block hskip
    obtain ⟨hseconds, hframes⟩ := h.frameOfMinute_split hskip
    have hframe := h.frameOfMinute_lt_of_skips hskip
    -- The number lies in the first minute of its ten exactly if the minute is such a one.
    by_cases hunits : f.minuteOfDay % 10 = 0
    · rw [hunits, Nat.zero_mul, Nat.zero_add] at hplace
      have htens : f.minuteOfDay / 10 * 10 = f.minuteOfDay := by omega
      rw [fieldsOfFrameNumber_of_first hskip (by omega), hblock, hplace, htens, hhours, hminutes,
        hseconds, hframes]
    · have hlower := h.two_le_frameOfMinute hskip hunits
      have hminute : 1 + (f.minuteOfDay % 10 * 1798 + f.frameOfMinute 30 - 1800) / 1798
          = f.minuteOfDay % 10 := by
        omega
      have hrest : (f.minuteOfDay % 10 * 1798 + f.frameOfMinute 30 - 1800) % 1798 + 2
          = f.frameOfMinute 30 := by
        omega
      have htens : f.minuteOfDay / 10 * 10 + f.minuteOfDay % 10 = f.minuteOfDay := by omega
      rw [fieldsOfFrameNumber_of_later hskip (by omega), hblock, hplace, hminute, hrest, htens,
        hhours, hminutes, hseconds, hframes]
  · obtain ⟨hminute, hseconds⟩ := h.secondOfDay_split
    have hdiv : (f.secondOfDay * c.modulus + f.frames) / c.modulus = f.secondOfDay := by
      rw [Nat.mul_comm, Nat.mul_add_div c.modulus_pos, Nat.div_eq_of_lt h.frames_lt, Nat.add_zero]
    have hmod : (f.secondOfDay * c.modulus + f.frames) % c.modulus = f.frames := by
      rw [Nat.mul_comm, Nat.mul_add_mod, Nat.mod_eq_of_lt h.frames_lt]
    rw [TimeCode.fieldsOfFrameNumber, if_neg hskip, number_of_not_skips hskip, hdiv, hmod,
      hminute, hhours, hminutes, hseconds]

theorem shows_fieldsOfFrameNumber (hpos : 1 ≤ c.fps) (hn : n < c.framesPerDay) :
    c.Shows (TimeCode.fieldsOfFrameNumber c n) := by
  by_cases hskip : c.Skips
  · rw [framesPerDay_of_skips hskip] at hn
    by_cases hfirst : n % 17982 < 1800
    · rw [fieldsOfFrameNumber_of_first hskip hfirst]
      refine ⟨⟨?_, ?_, ?_, ?_⟩, ?_⟩ <;> simp only [hskip.modulus_eq, Drops] <;> omega
    · rw [fieldsOfFrameNumber_of_later hskip hfirst]
      refine ⟨⟨?_, ?_, ?_, ?_⟩, ?_⟩ <;> simp only [hskip.modulus_eq, Drops] <;> omega
  · rw [framesPerDay_of_not_skips hpos hskip] at hn
    have hsecond : n / c.modulus < 86400 := Nat.div_lt_of_lt_mul (by rwa [Nat.mul_comm])
    rw [TimeCode.fieldsOfFrameNumber, if_neg hskip]
    refine ⟨⟨?_, ?_, ?_, ?_⟩, ?_⟩
    · show n / c.modulus / 60 / 60 < 24
      omega
    · exact Nat.mod_lt _ (by decide)
    · exact Nat.mod_lt _ (by decide)
    · exact Nat.mod_lt _ c.modulus_pos
    · exact fun hdrops => hskip hdrops.1

/-- The place of the fields at a number is that number, also beyond the day. -/
theorem number_fieldsOfFrameNumber (n : Nat) :
    c.number (TimeCode.fieldsOfFrameNumber c n) = n := by
  by_cases hskip : c.Skips
  · by_cases hfirst : n % 17982 < 1800
    · rw [number_of_skips hskip, fieldsOfFrameNumber_of_first hskip hfirst]
      simp only [minuteStart, Fields.minuteOfDay, Fields.frameOfMinute]
      omega
    · rw [number_of_skips hskip, fieldsOfFrameNumber_of_later hskip hfirst]
      simp only [minuteStart, Fields.minuteOfDay, Fields.frameOfMinute]
      omega
  · rw [number_of_not_skips hskip, TimeCode.fieldsOfFrameNumber, if_neg hskip]
    have hsecond : (n / c.modulus / 60 / 60 * 60 + n / c.modulus / 60 % 60) * 60
        + n / c.modulus % 60 = n / c.modulus := by
      omega
    simp only [Fields.secondOfDay, Fields.minuteOfDay, hsecond]
    exact Nat.div_add_mod' n c.modulus

end Counting

/-! ## Packed words -/

namespace TimeCode

variable {c : Counting} {t : TimeCode} {f : Fields}

lemma isValid_iff : t.IsValid c ↔ c.Shows t.fields ∧ ofFields t.fields = t := by
  constructor
  · rintro ⟨hh, hm, hs, hf, hd, heq⟩
    exact ⟨⟨⟨hh, hm, hs, hf⟩, hd⟩, heq⟩
  · rintro ⟨⟨⟨hh, hm, hs, hf⟩, hd⟩, heq⟩
    exact ⟨hh, hm, hs, hf, hd, heq⟩

lemma IsValid.shows (h : t.IsValid c) : c.Shows t.fields :=
  (isValid_iff.1 h).1

lemma IsValid.ofFields_fields (h : t.IsValid c) : ofFields t.fields = t :=
  (isValid_iff.1 h).2

/-- A rate of at most 40 frames has its frame numbers in six bits, so packing keeps them. -/
lemma fields_ofFields_of_isTime (hfit : c.fps ≤ 40) (h : c.IsTime f) :
    (ofFields f).fields = f := by
  have hhours := h.hours_lt
  have hminutes := h.minutes_lt
  have hseconds := h.seconds_lt
  have hframes := h.frames_lt
  unfold Counting.modulus at hframes
  exact fields_ofFields (by omega) (by omega) (by omega) (by omega)

lemma isValid_ofFields (hfit : c.fps ≤ 40) (h : c.Shows f) : (ofFields f).IsValid c := by
  rw [isValid_iff, fields_ofFields_of_isTime hfit h.toIsTime]
  exact ⟨h, rfl⟩

/-- The numbering by blocks of ten minutes gives the place among the numbers shown. -/
lemma frameNumber_eq_number (h : c.Shows t.fields) : t.frameNumber c = c.number t.fields := by
  have hframes := h.frames_lt
  have hmin : min t.fields.frames (c.modulus - 1) = t.fields.frames := by omega
  by_cases hskip : c.Skips
  · have htwo := h.two_le_frameOfMinute hskip
    rw [Counting.number_of_skips hskip]
    simp only [Fields.minuteOfDay, Fields.frameOfMinute] at htwo ⊢
    simp only [frameNumber, if_pos hskip, hmin, Counting.tenMinutes, Counting.minuteStart]
    split
    · omega
    · split <;> omega
  · rw [Counting.number_of_not_skips hskip]
    simp only [frameNumber, if_neg hskip, hmin, Fields.secondOfDay, Fields.minuteOfDay]

/-- A valid word is the one packed from the fields at its number, so its number determines it. -/
lemma IsValid.ofFields_frameNumber (h : t.IsValid c) :
    ofFields (fieldsOfFrameNumber c (t.frameNumber c)) = t := by
  rw [frameNumber_eq_number h.shows, h.shows.fieldsOfFrameNumber_number, h.ofFields_fields]

lemma IsValid.frameNumber_lt (hpos : 1 ≤ c.fps) (h : t.IsValid c) :
    t.frameNumber c < c.framesPerDay := by
  rw [frameNumber_eq_number h.shows]
  exact h.shows.number_lt hpos

lemma ofFrameNumber_eq (hpos : 1 ≤ c.fps) (n : Int) :
    ofFrameNumber c n = ofFields (fieldsOfFrameNumber c (n % c.framesPerDay).toNat) := by
  have hcounting : ({ c with fps := c.modulus } : Counting) = c := by
    rw [Counting.modulus_eq_fps hpos]
  rw [ofFrameNumber, hcounting]

end TimeCode

end TimecodeCard
