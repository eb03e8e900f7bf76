import TimecodeCard.Proofs.TimeCode.Numbering

/-!
# Stepping agrees with numbering

One step forward adds one to the place of a number among those shown, modulo the day, and one
step backward takes one away: `Counting.Shows.number_after` and `Counting.Shows.number_before`.
Everything else about steps follows from the numbering. Both steps keep a word valid and undo
each other, and so many steps lead where `TimeCode.addFrames` leads at once
(`TimeCode.IsValid.addFrames_eq_steps`).

A step is followed as the pair of the minute of the day and the frame of the minute, which turns
the four carries of `Fields.next` and `Fields.prev` into one (`Counting.IsTime.next_cases`,
`Counting.IsTime.prev_cases`).
-/

namespace TimecodeCard

namespace Counting

variable {c : Counting} {f : Fields}

/-! ## Numbers which are left out -/

lemma settleAhead_of_not_drops (h : ¬ c.Drops f) : c.settleAhead f = f := by
  rw [settleAhead, dif_neg h]

lemma settleBack_of_not_drops (h : ¬ c.Drops f) : c.settleBack f = f := by
  rw [settleBack, dif_neg h]

lemma settleAhead_of_drops (h : c.Drops f) : c.settleAhead f = { f with frames := 2 } := by
  have hlt := h.2.2.1
  have hnext : f.next c.modulus = { f with frames := f.frames + 1 } := by
    rw [Fields.next, h.1.modulus_eq, if_pos (by omega)]
  have hshown : ¬ c.Drops { f with frames := 2 } := fun hdrops => by
    have htwo : 2 < 2 := hdrops.2.2.1
    omega
  rw [settleAhead, dif_pos h, hnext]
  rcases (by omega : f.frames = 0 ∨ f.frames = 1) with hzero | hone
  · have hdrops : c.Drops { f with frames := 1 } := ⟨h.1, h.2.1, by simp, h.2.2.2⟩
    rw [hzero, settleAhead, dif_pos hdrops, Fields.next, h.1.modulus_eq, if_pos (by simp)]
    exact settleAhead_of_not_drops hshown
  · rw [hone]
    exact settleAhead_of_not_drops hshown

lemma settleBack_of_drops (h : c.Drops f) :
    c.settleBack f = { f with minutes := f.minutes - 1, seconds := 59, frames := 29 } := by
  obtain ⟨hskip, hseconds, hlt, hminutes⟩ := h
  have hshown : ¬ c.Drops { f with minutes := f.minutes - 1, seconds := 59, frames := 29 } :=
    fun hdrops => by
      have hzero : 59 = 0 := hdrops.2.1
      omega
  -- Frame 0 of the minute steps back over its start.
  have hfirst : c.settleBack { f with frames := 0 }
      = { f with minutes := f.minutes - 1, seconds := 59, frames := 29 } := by
    have hdrops : c.Drops { f with frames := 0 } := ⟨hskip, hseconds, by simp, hminutes⟩
    rw [settleBack, dif_pos hdrops, Fields.prev, if_neg (by simp), hseconds,
      if_neg (by simp), if_pos (by simp only; omega), hskip.modulus_eq]
    exact settleBack_of_not_drops hshown
  rcases (by omega : f.frames = 0 ∨ f.frames = 1) with hzero | hone
  · rwa [← hzero] at hfirst
  · have hback : f.prev c.modulus = { f with frames := 0 } := by
      rw [Fields.prev, if_pos (by omega), hone, Nat.sub_self, Nat.zero_min]
    rw [settleBack, dif_pos ⟨hskip, hseconds, hlt, hminutes⟩, hback, hfirst]

/-! ## One frame of the clock -/

lemma IsTime.next_cases (h : c.IsTime f) :
    c.IsTime (f.next c.modulus) ∧
      ((f.frameOfMinute c.modulus + 1 < 60 * c.modulus
          ∧ (f.next c.modulus).minuteOfDay = f.minuteOfDay
          ∧ (f.next c.modulus).frameOfMinute c.modulus = f.frameOfMinute c.modulus + 1)
        ∨ (f.frameOfMinute c.modulus + 1 = 60 * c.modulus
          ∧ (f.next c.modulus).minuteOfDay = (f.minuteOfDay + 1) % 1440
          ∧ (f.next c.modulus).frameOfMinute c.modulus = 0)) := by
  obtain ⟨hhours, hminutes, hseconds, hframes⟩ := h
  have hpos := c.modulus_pos
  unfold Fields.next
  split
  · rename_i hframe
    have htime : c.IsTime { f with frames := f.frames + 1 } := ⟨hhours, hminutes, hseconds, hframe⟩
    exact ⟨htime, Or.inl ⟨htime.frameOfMinute_lt, rfl, rfl⟩⟩
  · rename_i hframe
    have hlast : f.frames + 1 = c.modulus := by omega
    split
    · rename_i hsecond
      have htime : c.IsTime { f with seconds := f.seconds + 1, frames := 0 } :=
        ⟨hhours, hminutes, hsecond, hpos⟩
      have hstep : Fields.frameOfMinute c.modulus { f with seconds := f.seconds + 1, frames := 0 }
          = f.frameOfMinute c.modulus + 1 := by
        simp only [Fields.frameOfMinute, Nat.succ_mul]
        omega
      exact ⟨htime, Or.inl ⟨hstep ▸ htime.frameOfMinute_lt, rfl, hstep⟩⟩
    · rename_i hsecond
      have hend : f.frameOfMinute c.modulus + 1 = 60 * c.modulus := by
        have hseconds : f.seconds = 59 := by omega
        rw [Fields.frameOfMinute, hseconds]
        omega
      have hstart : ∀ hh mm, Fields.frameOfMinute c.modulus
          { hours := hh, minutes := mm, seconds := 0, frames := 0 } = 0 := by
        intro hh mm
        simp [Fields.frameOfMinute]
      split
      · rename_i hminute
        refine ⟨⟨hhours, hminute, by simp, hpos⟩, Or.inr ⟨hend, ?_, hstart _ _⟩⟩
        simp only [Fields.minuteOfDay]
        omega
      · refine ⟨⟨?_, by simp, by simp, hpos⟩, Or.inr ⟨hend, ?_, hstart _ _⟩⟩
        · simp only
          split <;> omega
        · simp only [Fields.minuteOfDay]
          split <;> omega

lemma IsTime.prev_cases (h : c.IsTime f) :
    c.IsTime (f.prev c.modulus) ∧
      ((0 < f.frameOfMinute c.modulus
          ∧ (f.prev c.modulus).minuteOfDay = f.minuteOfDay
          ∧ (f.prev c.modulus).frameOfMinute c.modulus + 1 = f.frameOfMinute c.modulus)
        ∨ (f.frameOfMinute c.modulus = 0
          ∧ (f.prev c.modulus).minuteOfDay = (f.minuteOfDay + 1439) % 1440
          ∧ (f.prev c.modulus).frameOfMinute c.modulus + 1 = 60 * c.modulus)) := by
  obtain ⟨hhours, hminutes, hseconds, hframes⟩ := h
  have hpos := c.modulus_pos
  unfold Fields.prev
  split
  · rename_i hframe
    have hmin : min (f.frames - 1) (c.modulus - 1) = f.frames - 1 := by omega
    rw [hmin]
    refine ⟨⟨hhours, hminutes, hseconds, by simp only; omega⟩, Or.inl ⟨?_, rfl, ?_⟩⟩ <;>
    · simp only [Fields.frameOfMinute]
      omega
  · rename_i hframe
    split
    · rename_i hsecond
      have hsplit : f.seconds * c.modulus = (f.seconds - 1) * c.modulus + c.modulus := by
        rw [← Nat.succ_mul]
        congr 1
        omega
      refine ⟨⟨hhours, hminutes, by simp only; omega, by simp only; omega⟩,
        Or.inl ⟨?_, rfl, ?_⟩⟩ <;>
      · simp only [Fields.frameOfMinute]
        omega
    · rename_i hsecond
      have hstart : f.frameOfMinute c.modulus = 0 := by
        have hzero : f.seconds = 0 := by omega
        rw [Fields.frameOfMinute, hzero]
        omega
      have hend : ∀ hh mm, Fields.frameOfMinute c.modulus
          { hours := hh, minutes := mm, seconds := 59, frames := c.modulus - 1 } + 1
            = 60 * c.modulus := by
        intro hh mm
        simp only [Fields.frameOfMinute]
        omega
      split
      · rename_i hminute
        refine ⟨⟨hhours, by simp only; omega, by simp, by simp only; omega⟩,
          Or.inr ⟨hstart, ?_, hend _ _⟩⟩
        simp only [Fields.minuteOfDay]
        omega
      · refine ⟨⟨?_, by simp, by simp, by simp only; omega⟩, Or.inr ⟨hstart, ?_, hend _ _⟩⟩
        · simp only
          split <;> omega
        · simp only [Fields.minuteOfDay]
          split <;> omega

/-! ## One step of the counting -/

/-- The fields which are shown one frame later. -/
def after (c : Counting) (f : Fields) : Fields :=
  c.settleAhead (f.next c.modulus)

/-- The fields which are shown one frame earlier. -/
def before (c : Counting) (f : Fields) : Fields :=
  c.settleBack (f.prev c.modulus)

lemma after_of_not_skips (hskip : ¬ c.Skips) : c.after f = f.next c.modulus :=
  settleAhead_of_not_drops fun hdrops => hskip hdrops.1

lemma before_of_not_skips (hskip : ¬ c.Skips) : c.before f = f.prev c.modulus :=
  settleBack_of_not_drops fun hdrops => hskip hdrops.1

/-- Settling ahead moves a number left out to frame 2 of its minute. -/
lemma IsTime.settleAhead_cases (h : c.IsTime f) :
    c.Shows (c.settleAhead f) ∧
      ((¬ c.Drops f ∧ c.settleAhead f = f)
        ∨ (c.Drops f ∧ (c.settleAhead f).minuteOfDay = f.minuteOfDay
          ∧ (c.settleAhead f).frameOfMinute 30 = 2)) := by
  by_cases hdrops : c.Drops f
  · rw [settleAhead_of_drops hdrops]
    have hframes : 2 < c.modulus := by
      rw [hdrops.1.modulus_eq]
      decide
    refine ⟨⟨⟨h.hours_lt, h.minutes_lt, h.seconds_lt, hframes⟩, fun hagain => ?_⟩,
      Or.inr ⟨hdrops, rfl, ?_⟩⟩
    · exact Nat.lt_irrefl 2 hagain.2.2.1
    · simp [Fields.frameOfMinute, hdrops.2.1]
  · rw [settleAhead_of_not_drops hdrops]
    exact ⟨⟨h, hdrops⟩, Or.inl ⟨hdrops, rfl⟩⟩

lemma IsTime.settleBack_cases (h : c.IsTime f) :
    c.Shows (c.settleBack f) ∧
      ((¬ c.Drops f ∧ c.settleBack f = f)
        ∨ (c.Drops f ∧ (c.settleBack f).minuteOfDay + 1 = f.minuteOfDay
          ∧ (c.settleBack f).frameOfMinute 30 = 1799)) := by
  by_cases hdrops : c.Drops f
  · rw [settleBack_of_drops hdrops]
    have hframes : 29 < c.modulus := by
      rw [hdrops.1.modulus_eq]
      decide
    have hminutes := h.minutes_lt
    have hpos := hdrops.2.2.2
    refine ⟨⟨⟨h.hours_lt, by simp only; omega, by simp, hframes⟩, fun hagain => ?_⟩,
      Or.inr ⟨hdrops, ?_, rfl⟩⟩
    · have hzero : 59 = 0 := hagain.2.1
      omega
    · simp only [Fields.minuteOfDay]
      omega
  · rw [settleBack_of_not_drops hdrops]
    exact ⟨⟨h, hdrops⟩, Or.inl ⟨hdrops, rfl⟩⟩

lemma Shows.after (h : c.Shows f) : c.Shows (c.after f) :=
  h.next_cases.1.settleAhead_cases.1

lemma Shows.before (h : c.Shows f) : c.Shows (c.before f) :=
  h.prev_cases.1.settleBack_cases.1

/-- With dropped numbers, a minute which ends is followed by frame 0 or by frame 2 of the next one,
as it has 1800 frames or 1798. -/
lemma Shows.number_after_of_skips (hskip : c.Skips) (h : c.Shows f) :
    c.number (c.after f) = c.number f + 1
      ∨ c.number f + 1 = 2589408 ∧ c.number (c.after f) = 0 := by
  have hlt := h.minuteOfDay_lt
  have htwo := h.two_le_frameOfMinute hskip
  obtain ⟨htime, hstep⟩ := h.next_cases
  obtain ⟨-, hsettle⟩ := htime.settleAhead_cases
  have hdrop := htime.drops_iff hskip
  rw [number_of_skips hskip, number_of_skips hskip, Counting.after]
  rw [hskip.modulus_eq] at *
  rcases hstep with ⟨-, hsame, hnext⟩ | ⟨hend, hover, hstart⟩
  · have hshown : ¬ c.Drops (f.next 30) := by
      rw [hdrop, hsame, hnext]
      omega
    rcases hsettle with ⟨-, heq⟩ | ⟨hdrops, -⟩
    · rw [heq, hsame, hnext]
      exact Or.inl (by omega)
    · exact absurd hdrops hshown
  · rw [hover, hstart] at hdrop
    rcases (by omega : f.minuteOfDay = 1439 ∨ f.minuteOfDay + 1 < 1440) with hlast | hlt
    · have hzero : (f.minuteOfDay + 1) % 1440 = 0 := by omega
      rcases hsettle with ⟨-, heq⟩ | ⟨hdrops, -⟩
      · rw [heq, hover, hstart, hzero, hlast, minuteStart, minuteStart]
        omega
      · rw [hdrop, hzero] at hdrops
        omega
    · have hsucc := minuteStart_succ f.minuteOfDay
      rw [Nat.mod_eq_of_lt hlt] at hover hdrop
      left
      rcases hsettle with ⟨hshown, heq⟩ | ⟨hdrops, hkeep, hframe⟩
      · have hten : (f.minuteOfDay + 1) % 10 = 0 := by
          by_contra hunits
          exact hshown (hdrop.2 ⟨hunits, by decide⟩)
        rw [heq, hover, hstart, hsucc, if_pos hten]
        omega
      · rw [hkeep, hframe, hover, hsucc, if_neg (hdrop.1 hdrops).1]
        omega

lemma Shows.number_before_of_skips (hskip : c.Skips) (h : c.Shows f) :
    c.number (c.before f) + 1 = c.number f
      ∨ c.number (c.before f) + 1 = 2589408 ∧ c.number f = 0 := by
  have hlt := h.minuteOfDay_lt
  have htwo := h.two_le_frameOfMinute hskip
  obtain ⟨htime, hstep⟩ := h.prev_cases
  obtain ⟨-, hsettle⟩ := htime.settleBack_cases
  have hdrop := htime.drops_iff hskip
  rw [number_of_skips hskip, number_of_skips hskip, Counting.before]
  rw [hskip.modulus_eq] at *
  rcases hstep with ⟨-, hsame, hprev⟩ | ⟨hstart, hover, hend⟩
  · rcases hsettle with ⟨-, heq⟩ | ⟨hdrops, hkeep, hframe⟩
    · rw [heq, hsame, ← hprev]
      exact Or.inl (by omega)
    · -- Only frame 2 of its minute is preceded by a number left out.
      have hminute := (hdrop.1 hdrops).1
      have hsucc := minuteStart_succ (c.settleBack (f.prev 30)).minuteOfDay
      rw [hsame] at hkeep hminute
      rw [hkeep, if_neg hminute] at hsucc
      have hfirst := htwo hminute
      have hlower := (hdrop.1 hdrops).2
      rw [hsucc, hframe]
      exact Or.inl (by omega)
  · have hshown : ¬ c.Drops (f.prev 30) := by
      rw [hdrop]
      omega
    rcases hsettle with ⟨-, heq⟩ | ⟨hdrops, -⟩
    · rw [heq, hover, hstart]
      rcases (by omega : f.minuteOfDay = 0 ∨ 1 ≤ f.minuteOfDay) with hzero | hpos
      · rw [hzero, minuteStart, minuteStart]
        omega
      · have hback : (f.minuteOfDay + 1439) % 1440 = f.minuteOfDay - 1 := by omega
        have hten : f.minuteOfDay % 10 = 0 := by
          by_contra hunits
          have hlower := htwo hunits
          omega
        have hsucc := minuteStart_succ (f.minuteOfDay - 1)
        rw [Nat.sub_add_cancel hpos, if_pos hten] at hsucc
        rw [hback, hsucc]
        exact Or.inl (by omega)
    · exact absurd hdrops hshown

/-- One step forward adds one to the place of a number, modulo the day. -/
theorem Shows.number_after (hpos : 1 ≤ c.fps) (h : c.Shows f) :
    c.number (c.after f) = (c.number f + 1) % c.framesPerDay := by
  have hlt := h.after.number_lt hpos
  by_cases hskip : c.Skips
  · rw [framesPerDay_of_skips hskip] at hlt ⊢
    rcases h.number_after_of_skips hskip with hsucc | ⟨hday, hzero⟩
    · rw [← hsucc, Nat.mod_eq_of_lt hlt]
    · rw [hday, hzero]
  · rw [framesPerDay_of_not_skips hpos hskip, number_of_not_skips_minutes hskip] at hlt
    rw [framesPerDay_of_not_skips hpos hskip, number_of_not_skips_minutes hskip,
      number_of_not_skips_minutes hskip]
    rw [after_of_not_skips hskip] at hlt ⊢
    rcases h.next_cases.2 with ⟨-, hminute, hframe⟩ | ⟨hend, hminute, hframe⟩
    · rw [hminute, hframe] at hlt ⊢
      exact (Nat.mod_eq_of_lt hlt).symm
    · rw [hminute, hframe, Nat.add_assoc, hend, ← Nat.succ_mul,
        show 86400 * c.modulus = 1440 * (60 * c.modulus) by ring, Nat.mul_mod_mul_right,
        Nat.add_zero]

/-- One step backward takes one from the place of a number, modulo the day. -/
theorem Shows.number_before (hpos : 1 ≤ c.fps) (h : c.Shows f) :
    (c.number (c.before f) + 1) % c.framesPerDay = c.number f := by
  have hlt := h.number_lt hpos
  by_cases hskip : c.Skips
  · rw [framesPerDay_of_skips hskip] at hlt ⊢
    rcases h.number_before_of_skips hskip with hpred | ⟨hday, hzero⟩
    · rw [hpred, Nat.mod_eq_of_lt hlt]
    · rw [hday, hzero]
  · rw [framesPerDay_of_not_skips hpos hskip, number_of_not_skips_minutes hskip] at hlt
    rw [framesPerDay_of_not_skips hpos hskip, before_of_not_skips hskip,
      number_of_not_skips_minutes hskip, number_of_not_skips_minutes hskip]
    rcases h.prev_cases.2 with ⟨-, hminute, hframe⟩ | ⟨hstart, hminute, hframe⟩
    · rw [hminute, Nat.add_assoc, hframe]
      exact Nat.mod_eq_of_lt hlt
    · have hday := h.minuteOfDay_lt
      have hback : ((f.minuteOfDay + 1439) % 1440 + 1) % 1440 = f.minuteOfDay := by omega
      rw [hminute, Nat.add_assoc, hframe, hstart, ← Nat.succ_mul,
        show 86400 * c.modulus = 1440 * (60 * c.modulus) by ring, Nat.mul_mod_mul_right,
        Nat.succ_eq_add_one, hback, Nat.add_zero]

end Counting

/-! ## Steps of the packed word -/

namespace TimeCode

variable {c : Counting} {t : TimeCode}

lemma IsValid.increment (hfit : c.fps ≤ 40) (h : t.IsValid c) : (t.increment c).IsValid c :=
  isValid_ofFields hfit h.shows.after

lemma IsValid.decrement (hfit : c.fps ≤ 40) (h : t.IsValid c) : (t.decrement c).IsValid c :=
  isValid_ofFields hfit h.shows.before

lemma IsValid.frameNumber_increment (hpos : 1 ≤ c.fps) (hfit : c.fps ≤ 40) (h : t.IsValid c) :
    (t.increment c).frameNumber c = (t.frameNumber c + 1) % c.framesPerDay := by
  have hfields : (t.increment c).fields = c.after t.fields :=
    fields_ofFields_of_isTime hfit h.shows.after.toIsTime
  rw [frameNumber_eq_number (h.increment hfit).shows, frameNumber_eq_number h.shows, hfields,
    h.shows.number_after hpos]

lemma IsValid.frameNumber_decrement (hpos : 1 ≤ c.fps) (hfit : c.fps ≤ 40) (h : t.IsValid c) :
    ((t.decrement c).frameNumber c + 1) % c.framesPerDay = t.frameNumber c := by
  have hfields : (t.decrement c).fields = c.before t.fields :=
    fields_ofFields_of_isTime hfit h.shows.before.toIsTime
  rw [frameNumber_eq_number (h.decrement hfit).shows, frameNumber_eq_number h.shows, hfields,
    h.shows.number_before hpos]

lemma IsValid.eq_of_frameNumber_eq {u : TimeCode} (ht : t.IsValid c) (hu : u.IsValid c)
    (h : t.frameNumber c = u.frameNumber c) : t = u := by
  rw [← ht.ofFields_frameNumber, h, hu.ofFields_frameNumber]

lemma IsValid.decrement_increment (hpos : 1 ≤ c.fps) (hfit : c.fps ≤ 40) (h : t.IsValid c) :
    (t.increment c).decrement c = t := by
  have hnext := h.increment hfit
  have hback := hnext.decrement hfit
  have hnumber := hnext.frameNumber_decrement hpos hfit
  have hlt := h.frameNumber_lt hpos
  have hlt' := hback.frameNumber_lt hpos
  refine hback.eq_of_frameNumber_eq h ?_
  rw [h.frameNumber_increment hpos hfit] at hnumber
  exact Nat.ModEq.add_right_cancel' 1 hnumber |>.eq_of_lt_of_lt hlt' hlt

lemma IsValid.increment_decrement (hpos : 1 ≤ c.fps) (hfit : c.fps ≤ 40) (h : t.IsValid c) :
    (t.decrement c).increment c = t := by
  have hback := h.decrement hfit
  refine (hback.increment hfit).eq_of_frameNumber_eq h ?_
  rw [hback.frameNumber_increment hpos hfit, h.frameNumber_decrement hpos hfit]

/-! ## Many steps -/

/-- A run of steps forward keeps the word valid and adds their number to its place. -/
lemma IsValid.repeat_increment (hpos : 1 ≤ c.fps) (hfit : c.fps ≤ 40) (h : t.IsValid c) (n : Nat) :
    (Nat.repeat (TimeCode.increment c) n t).IsValid c
      ∧ (Nat.repeat (TimeCode.increment c) n t).frameNumber c
        = (t.frameNumber c + n) % c.framesPerDay := by
  induction n with
  | zero => exact ⟨h, (Nat.mod_eq_of_lt (h.frameNumber_lt hpos)).symm⟩
  | succ n ih =>
      obtain ⟨hvalid, hnumber⟩ := ih
      refine ⟨hvalid.increment hfit, ?_⟩
      rw [Nat.repeat, hvalid.frameNumber_increment hpos hfit, hnumber, Nat.mod_add_mod,
        Nat.add_assoc]

lemma IsValid.repeat_decrement (hpos : 1 ≤ c.fps) (hfit : c.fps ≤ 40) (h : t.IsValid c) (n : Nat) :
    (Nat.repeat (TimeCode.decrement c) n t).IsValid c
      ∧ ((Nat.repeat (TimeCode.decrement c) n t).frameNumber c + n) % c.framesPerDay
        = t.frameNumber c := by
  induction n with
  | zero => exact ⟨h, Nat.mod_eq_of_lt (h.frameNumber_lt hpos)⟩
  | succ n ih =>
      obtain ⟨hvalid, hnumber⟩ := ih
      refine ⟨hvalid.decrement hfit, ?_⟩
      rw [Nat.repeat, ← Nat.add_assoc, Nat.add_right_comm, ← Nat.mod_add_mod,
        hvalid.frameNumber_decrement hpos hfit, hnumber]

/-- Steps either way keep the word valid and move its place by their number, modulo the day. -/
lemma IsValid.frameNumber_steps (hpos : 1 ≤ c.fps) (hfit : c.fps ≤ 40) (h : t.IsValid c)
    (n : Int) : (steps c n t).IsValid c
      ∧ ((steps c n t).frameNumber c : Int) = (t.frameNumber c + n) % c.framesPerDay := by
  cases n with
  | ofNat n =>
      obtain ⟨hvalid, hnumber⟩ := h.repeat_increment hpos hfit n
      refine ⟨hvalid, ?_⟩
      rw [steps, hnumber]
      push_cast
      rfl
  | negSucc n =>
      obtain ⟨hvalid, hnumber⟩ := h.repeat_decrement hpos hfit (n + 1)
      have hlt := hvalid.frameNumber_lt hpos
      refine ⟨hvalid, ?_⟩
      rw [← hnumber, steps, Int.natCast_mod, Int.emod_add_emod, Int.emod_eq_of_lt] <;> omega

/-- Adding a number of frames leads where so many single steps lead. -/
theorem IsValid.addFrames_eq_steps (hpos : 1 ≤ c.fps) (hfit : c.fps ≤ 40) (h : t.IsValid c)
    (n : Int) : t.addFrames c n = steps c n t := by
  obtain ⟨hvalid, hnumber⟩ := h.frameNumber_steps hpos hfit n
  rw [addFrames, ofFrameNumber_eq hpos, ← hnumber, Int.toNat_natCast, hvalid.ofFields_frameNumber]

lemma IsValid.addFrames_natCast (hpos : 1 ≤ c.fps) (hfit : c.fps ≤ 40) (h : t.IsValid c)
    (n : Nat) : t.addFrames c n = Nat.repeat (TimeCode.increment c) n t :=
  h.addFrames_eq_steps hpos hfit n

lemma IsValid.addFrames_neg_natCast (hpos : 1 ≤ c.fps) (hfit : c.fps ≤ 40) (h : t.IsValid c)
    (n : Nat) : t.addFrames c (-n) = Nat.repeat (TimeCode.decrement c) n t := by
  cases n with
  | zero =>
      rw [Nat.cast_zero, neg_zero, ← Nat.cast_zero, h.addFrames_natCast hpos hfit, Nat.repeat,
        Nat.repeat]
  | succ n =>
      rw [Nat.cast_succ, ← Int.negSucc_eq]
      exact h.addFrames_eq_steps hpos hfit (.negSucc n)

/-- **Numbering agrees with stepping.** From a valid word, adding any number of frames leads where
as many single steps lead, forward or backward, and a step either way gives a valid word and is
undone by the other. -/
theorem addFrames_agrees_with_stepping (hpos : 1 ≤ c.fps) (hfit : c.fps ≤ 40) (h : t.IsValid c) :
    (∀ n : Nat, t.addFrames c n = Nat.repeat (TimeCode.increment c) n t
        ∧ t.addFrames c (-n) = Nat.repeat (TimeCode.decrement c) n t)
      ∧ (t.increment c).IsValid c ∧ (t.decrement c).IsValid c
      ∧ (t.increment c).decrement c = t ∧ (t.decrement c).increment c = t :=
  ⟨fun n => ⟨h.addFrames_natCast hpos hfit n, h.addFrames_neg_natCast hpos hfit n⟩,
    h.increment hfit, h.decrement hfit, h.decrement_increment hpos hfit,
    h.increment_decrement hpos hfit⟩

/-- The last frame before a minute which leaves out two numbers. -/
theorem addFrames_agrees_with_stepping_before_dropped :
    (⟨0x00005929⟩ : TimeCode).IsValid ⟨30, true⟩
      ∧ (∀ n : Nat,
        (⟨0x00005929⟩ : TimeCode).addFrames ⟨30, true⟩ n
            = Nat.repeat (TimeCode.increment ⟨30, true⟩) n ⟨0x00005929⟩
          ∧ (⟨0x00005929⟩ : TimeCode).addFrames ⟨30, true⟩ (-n)
            = Nat.repeat (TimeCode.decrement ⟨30, true⟩) n ⟨0x00005929⟩)
      ∧ ((⟨0x00005929⟩ : TimeCode).increment ⟨30, true⟩).decrement ⟨30, true⟩ = ⟨0x00005929⟩ := by
  have hvalid : (⟨0x00005929⟩ : TimeCode).IsValid ⟨30, true⟩ := by decide
  obtain ⟨hadd, -, -, hundo, -⟩ :=
    addFrames_agrees_with_stepping (c := ⟨30, true⟩) (by decide) (by decide) hvalid
  exact ⟨hvalid, hadd, hundo⟩

example : (⟨0x00005929⟩ : TimeCode).addFrames ⟨30, true⟩ 1 = ⟨0x00010002⟩ := by decide

end TimeCode

end TimecodeCard
