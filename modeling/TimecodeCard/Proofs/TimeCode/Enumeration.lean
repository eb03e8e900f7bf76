import Mathlib.Tactic
import TimecodeCard.Proofs.TimeCode.Stepping

/-!
# The numbers of a day follow the clock

The valid words of a counting and the numbers below `Counting.framesPerDay` go with each other one
to one, and the order of the numbers is that of the clock: hours first, then minutes, seconds and
frames. `Counting.NumbersDay` says all of it, and `numbersDay` that it holds at every rate whose
frame numbers fit their field.

The order is the only part which the numbering alone does not give. Both orders are taken apart at
the same place, the minute of the day and the frame of the minute: `IsTime.toList_lt_iff` does so
for the fields and `Shows.number_lt_iff` for the numbers. Without dropped numbers each is the order
of a number with two digits (`place_lt_iff`).

Any word at all has a number, so that frames can be added to it, and the sum is valid. The last
section says that adding is an action: a valid word stays where nothing is added, and two sums in a
row are one.
-/

namespace TimecodeCard

/-! ## Order of the clock -/

/-- The four fields, those which count for most first. Their order as a list is that of the
clock. -/
def Fields.toList (f : Fields) : List Nat :=
  [f.hours, f.minutes, f.seconds, f.frames]

namespace Counting

variable {c : Counting} {f g : Fields}

/-- Numbers with a digit below the base compare by what stands before the digit, and then by the
digit. -/
lemma place_lt_iff {base a b x y : Nat} (hx : x < base) (hy : y < base) :
    a * base + x < b * base + y ↔ a < b ∨ a = b ∧ x < y := by
  have hstep : ∀ {a b x y : Nat}, x < base → a < b → a * base + x < b * base + y := by
    intro a b x y hx hab
    calc a * base + x
        < a * base + base := by omega
      _ = (a + 1) * base := by ring
      _ ≤ b * base := Nat.mul_le_mul_right base hab
      _ ≤ b * base + y := Nat.le_add_right _ y
  rcases lt_trichotomy a b with hab | hab | hab
  · simp [hab, hstep hx hab]
  · simp [hab]
  · have hnot := hstep (y := x) hy hab
    constructor
    · intro hlt
      omega
    · intro hlt
      omega

/-- The clock goes by the minute of the day first, and within the minute by the frame. -/
lemma IsTime.toList_lt_iff (hf : c.IsTime f) (hg : c.IsTime g) :
    f.toList < g.toList ↔ f.minuteOfDay < g.minuteOfDay
      ∨ f.minuteOfDay = g.minuteOfDay
        ∧ f.frameOfMinute c.modulus < g.frameOfMinute c.modulus := by
  have hminute := place_lt_iff (a := f.hours) (b := g.hours) hf.minutes_lt hg.minutes_lt
  have hframe := place_lt_iff (a := f.seconds) (b := g.seconds) hf.frames_lt hg.frames_lt
  obtain ⟨hfhours, hfminutes⟩ := hf.minuteOfDay_split
  obtain ⟨hghours, hgminutes⟩ := hg.minuteOfDay_split
  have hsame : f.minuteOfDay = g.minuteOfDay ↔ f.hours = g.hours ∧ f.minutes = g.minutes := by
    constructor
    · intro heq
      rw [heq] at hfhours hfminutes
      exact ⟨hfhours.symm.trans hghours, hfminutes.symm.trans hgminutes⟩
    · rintro ⟨hhours, hminutes⟩
      rw [Fields.minuteOfDay, Fields.minuteOfDay, hhours, hminutes]
  rw [hsame, Fields.minuteOfDay, Fields.minuteOfDay, Fields.frameOfMinute, Fields.frameOfMinute,
    hminute, hframe]
  simp only [Fields.toList, List.cons_lt_cons_iff, List.lt_irrefl, and_false, or_false,
    and_or_left, or_assoc, and_assoc]

/-- The numbers go by the minute of the day first, and within the minute by the frame. -/
lemma Shows.number_lt_iff (hf : c.Shows f) (hg : c.Shows g) :
    c.number f < c.number g ↔ f.minuteOfDay < g.minuteOfDay
      ∨ f.minuteOfDay = g.minuteOfDay
        ∧ f.frameOfMinute c.modulus < g.frameOfMinute c.modulus := by
  by_cases hskip : c.Skips
  · -- A minute has up to 1800 frames, of which the first two are left out where it has 1798.
    have hfframe := hf.frameOfMinute_lt_of_skips hskip
    have hgframe := hg.frameOfMinute_lt_of_skips hskip
    have hftwo := hf.two_le_frameOfMinute hskip
    have hgtwo := hg.two_le_frameOfMinute hskip
    rw [number_of_skips hskip, number_of_skips hskip, hskip.modulus_eq, minuteStart, minuteStart]
    omega
  · rw [number_of_not_skips_minutes hskip, number_of_not_skips_minutes hskip]
    exact place_lt_iff hf.frameOfMinute_lt hg.frameOfMinute_lt

end Counting

/-! ## Numbers and valid words -/

namespace TimeCode

variable {c : Counting} {t u : TimeCode}

lemma shows_fieldsOfFrameNumber_emod (hpos : 1 ≤ c.fps) (n : Int) :
    c.Shows (fieldsOfFrameNumber c (n % c.framesPerDay).toNat) := by
  obtain ⟨hnonneg, hlt⟩ := c.emod_framesPerDay_bounds hpos n
  exact Counting.shows_fieldsOfFrameNumber hpos (by omega)

lemma isValid_ofFrameNumber (hpos : 1 ≤ c.fps) (hfit : c.fps ≤ 40) (n : Int) :
    (ofFrameNumber c n).IsValid c := by
  rw [ofFrameNumber_eq hpos]
  exact isValid_ofFields hfit (shows_fieldsOfFrameNumber_emod hpos n)

lemma frameNumber_ofFrameNumber (hpos : 1 ≤ c.fps) (hfit : c.fps ≤ 40) (n : Int) :
    ((ofFrameNumber c n).frameNumber c : Int) = n % c.framesPerDay := by
  have hfields := fields_ofFields_of_isTime hfit
    (shows_fieldsOfFrameNumber_emod hpos n).toIsTime
  rw [frameNumber_eq_number (isValid_ofFrameNumber hpos hfit n).shows, ofFrameNumber_eq hpos,
    hfields, Counting.number_fieldsOfFrameNumber,
    Int.toNat_of_nonneg (c.emod_framesPerDay_bounds hpos n).1]

lemma IsValid.ofFrameNumber_frameNumber (hpos : 1 ≤ c.fps) (h : t.IsValid c) :
    ofFrameNumber c (t.frameNumber c) = t := by
  have hlt := h.frameNumber_lt hpos
  rw [ofFrameNumber_eq hpos, Int.emod_eq_of_lt (by omega) (by omega), Int.toNat_natCast,
    h.ofFields_frameNumber]

lemma IsValid.frameNumber_lt_iff (ht : t.IsValid c) (hu : u.IsValid c) :
    t.frameNumber c < u.frameNumber c ↔ t.fields.toList < u.fields.toList := by
  rw [frameNumber_eq_number ht.shows, frameNumber_eq_number hu.shows,
    ht.shows.number_lt_iff hu.shows, ht.shows.toIsTime.toList_lt_iff hu.shows.toIsTime]

/-! ## A day of single steps -/

lemma IsValid.repeat_increment_framesPerDay (hpos : 1 ≤ c.fps) (hfit : c.fps ≤ 40)
    (h : t.IsValid c) : Nat.repeat (TimeCode.increment c) c.framesPerDay t = t := by
  obtain ⟨hvalid, hnumber⟩ := h.repeat_increment hpos hfit c.framesPerDay
  refine hvalid.eq_of_frameNumber_eq h ?_
  rw [hnumber, Nat.add_mod_right, Nat.mod_eq_of_lt (h.frameNumber_lt hpos)]

/-- Less than a day of steps leads to each valid word in exactly one way. -/
lemma IsValid.bijOn_repeat_increment (hpos : 1 ≤ c.fps) (hfit : c.fps ≤ 40) (h : t.IsValid c) :
    Set.BijOn (fun n => Nat.repeat (TimeCode.increment c) n t) (Set.Iio c.framesPerDay)
      {u | u.IsValid c} := by
  have hsteps := h.repeat_increment hpos hfit
  refine ⟨fun n _ => (hsteps n).1, ?_, ?_⟩
  · intro m hm n hn heq
    have hnumber : (t.frameNumber c + m) % c.framesPerDay
        = (t.frameNumber c + n) % c.framesPerDay := by
      rw [← (hsteps m).2, ← (hsteps n).2]
      exact congrArg (frameNumber c) heq
    exact (Nat.ModEq.add_left_cancel' _ hnumber).eq_of_lt_of_lt hm hn
  · intro u hu
    have hday := c.framesPerDay_pos hpos
    have htlt := h.frameNumber_lt hpos
    have hult := hu.frameNumber_lt hpos
    -- The steps from one number to the other, over midnight if need be.
    refine ⟨(u.frameNumber c + (c.framesPerDay - t.frameNumber c)) % c.framesPerDay,
      Nat.mod_lt _ hday, ?_⟩
    refine (hsteps _).1.eq_of_frameNumber_eq hu ?_
    rw [(hsteps _).2, Nat.add_mod_mod,
      show t.frameNumber c + (u.frameNumber c + (c.framesPerDay - t.frameNumber c))
        = u.frameNumber c + c.framesPerDay by omega,
      Nat.add_mod_right, Nat.mod_eq_of_lt hult]

end TimeCode

/-! ## The day as a whole -/

/-- Whether the numbers of a day go with the valid words one to one and in order. -/
structure Counting.NumbersDay (c : Counting) : Prop where
  isValid_ofFrameNumber (n : Int) : (TimeCode.ofFrameNumber c n).IsValid c
  frameNumber_ofFrameNumber (n : Int) :
    ((TimeCode.ofFrameNumber c n).frameNumber c : Int) = n % c.framesPerDay
  frameNumber_lt {t : TimeCode} (h : t.IsValid c) : t.frameNumber c < c.framesPerDay
  ofFrameNumber_frameNumber {t : TimeCode} (h : t.IsValid c) :
    TimeCode.ofFrameNumber c (t.frameNumber c) = t
  /-- The numbers are in the order of the clock. -/
  frameNumber_lt_iff {t u : TimeCode} (ht : t.IsValid c) (hu : u.IsValid c) :
    t.frameNumber c < u.frameNumber c ↔ t.fields.toList < u.fields.toList
  /-- Steps forward visit every valid word once before they return. -/
  bijOn_repeat_increment {t : TimeCode} (h : t.IsValid c) :
    Set.BijOn (fun n => Nat.repeat (TimeCode.increment c) n t) (Set.Iio c.framesPerDay)
      {u | u.IsValid c}
  repeat_increment_framesPerDay {t : TimeCode} (h : t.IsValid c) :
    Nat.repeat (TimeCode.increment c) c.framesPerDay t = t

/-- **The numbers of a day follow the clock.** At every rate whose frame numbers fit their field,
with or without dropped numbers, the valid words are numbered one to one and in order, any integer
counts modulo the day, and steps forward from a valid word visit each one before they return. -/
theorem Counting.numbersDay {c : Counting} (hpos : 1 ≤ c.fps) (hfit : c.fps ≤ 40) :
    c.NumbersDay where
  isValid_ofFrameNumber := TimeCode.isValid_ofFrameNumber hpos hfit
  frameNumber_ofFrameNumber := TimeCode.frameNumber_ofFrameNumber hpos hfit
  frameNumber_lt h := h.frameNumber_lt hpos
  ofFrameNumber_frameNumber h := h.ofFrameNumber_frameNumber hpos
  frameNumber_lt_iff ht hu := ht.frameNumber_lt_iff hu
  bijOn_repeat_increment h := h.bijOn_repeat_increment hpos hfit
  repeat_increment_framesPerDay h := h.repeat_increment_framesPerDay hpos hfit

/-- Dropped numbers, at a minute which leaves out two and just before midnight. -/
theorem Counting.numbersDay_dropped :
    Counting.NumbersDay ⟨30, true⟩
      ∧ TimeCode.ofFrameNumber ⟨30, true⟩ 1800 = ⟨0x00010002⟩
      ∧ TimeCode.ofFrameNumber ⟨30, true⟩ (-1) = ⟨0x23595929⟩ :=
  ⟨Counting.numbersDay (by decide) (by decide), by decide, by decide⟩

/-! ## Frames added to any word -/

namespace TimeCode

variable {c : Counting}

lemma isValid_addFrames (hpos : 1 ≤ c.fps) (hfit : c.fps ≤ 40) (t : TimeCode) (n : Int) :
    (t.addFrames c n).IsValid c :=
  isValid_ofFrameNumber hpos hfit _

lemma addFrames_addFrames (hpos : 1 ≤ c.fps) (hfit : c.fps ≤ 40) (t : TimeCode) (m n : Int) :
    (t.addFrames c m).addFrames c n = t.addFrames c (m + n) := by
  rw [addFrames, addFrames, addFrames, frameNumber_ofFrameNumber hpos hfit, ofFrameNumber_eq hpos,
    ofFrameNumber_eq hpos, Int.emod_add_emod, Int.add_assoc]

lemma addFrames_zero_eq_iff (hpos : 1 ≤ c.fps) (hfit : c.fps ≤ 40) (t : TimeCode) :
    t.addFrames c 0 = t ↔ t.IsValid c := by
  constructor
  · intro heq
    rw [← heq]
    exact isValid_addFrames hpos hfit t 0
  · intro h
    rw [addFrames, Int.add_zero]
    exact h.ofFrameNumber_frameNumber hpos

end TimeCode

end TimecodeCard
