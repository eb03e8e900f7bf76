import Mathlib.Tactic
import TimecodeCard.Proofs.Simulation.Arrivals
import TimecodeCard.Proofs.Simulation.Input

/-!
# Nominal speed over a session

The pull factor of a session comes out of five roundings: of the time code frame to whole samples,
of the period and of each start to nanoseconds, of the average duration to microseconds, and of the
speed to per mille. None of them drifts, although the clock falls behind by a part of a nanosecond
in each period. `Session.Course.Measurable.hz_mul_arrival_add` is the exact instant of each start
with what the clock has lost, so that any number of frames take their nominal time but for a part of
a microsecond in each (`Session.Course.Measurable.hz_mul_arrival_add_le`,
`Session.Course.Measurable.le_hz_mul_arrival_add`).

The average is then one of at most two numbers of microseconds, for each format and base rate
(`Session.Course.exists_micros`), and all of them give the same pull factor. The main result is
`Session.nominal_speed`.
-/

namespace TimecodeCard

/-! ## Pull factor -/

/-- A shorter average is a higher speed, so that bounds of the average are bounds of the pull
factor. -/
lemma Ltc.Window.pullFactor_eq_of_bounds {w : Window} {fps low high factor : Nat}
    (hcount : 0 < w.count) (hfps : 0 < fps) (hpos : 0 < low)
    (hlow : low * 1000 * min w.count 16 ≤ w.total)
    (hhigh : w.total < (high + 1) * 1000 * min w.count 16)
    (hfast : (1000000000 / low + fps / 2) / fps ≤ factor)
    (hslow : factor ≤ (1000000000 / high + fps / 2) / fps) (hfit : factor ≤ 65535) :
    w.pullFactor fps = factor := by
  have hmin : 0 < min w.count 16 := lt_min hcount (by decide)
  unfold Window.pullFactor
  simp only
  generalize hmicros : w.total / min w.count 16 / 1000 = micros
  rw [Nat.div_div_eq_div_mul] at hmicros
  have hle : low ≤ micros := by
    rw [← hmicros, Nat.le_div_iff_mul_le (by omega), Nat.mul_comm (min w.count 16),
      ← Nat.mul_assoc]
    exact hlow
  have hge : micros ≤ high := by
    rw [← Nat.lt_succ_iff, ← hmicros, Nat.div_lt_iff_lt_mul (by omega),
      Nat.mul_comm (min w.count 16), ← Nat.mul_assoc]
    exact hhigh
  have hupper : (1000000000 / micros + fps / 2) / fps ≤ factor :=
    (perMille_antitone hpos hle).trans hfast
  have hlower : factor ≤ (1000000000 / micros + fps / 2) / fps :=
    hslow.trans (perMille_antitone (by omega) hge)
  rw [if_neg (by omega), le_antisymm hupper hlower, min_eq_left hfit]

namespace Session.Course

variable {c : Course} {k count : Nat}

/-! ## Instants without rounding -/

/-- The base rate of the module in hertz, which is that of samples at single speed. -/
def baseHz (c : Course) : Nat :=
  (Tco.BaseRate.ofCard c.rate.base).hz

lemma baseHz_bounds (c : Course) : 0 < c.baseHz ∧ c.baseHz ≤ 48000 := by
  unfold baseHz
  cases Tco.BaseRate.ofCard c.rate.base <;> decide

lemma Measurable.hz_eq (h : c.Measurable) : c.rate.hz = c.baseHz * c.rate.speed.factor := by
  have hne := h.base_ne
  unfold ClockRate.hz baseHz
  cases hbase : c.rate.base with
  | hz32000 => exact absurd hbase hne
  | hz44100 => rfl
  | hz48000 => rfl

/-- The session rounds down, by less than a nanosecond. -/
lemma Measurable.hz_mul_nanos_add (h : c.Measurable) (samples : Nat) :
    c.baseHz * c.nanos samples + samples * Ltc.nanosPerSecond % c.baseHz
      = samples * Ltc.nanosPerSecond := by
  have hnanos : c.nanos samples = samples * Ltc.nanosPerSecond / c.baseHz := by
    rw [nanos, h.hz_eq, Nat.mul_div_mul_right _ _ c.rate.speed.factor_pos]
  rw [hnanos]
  exact Nat.div_add_mod _ _

/-- A frame starts in the last period which is counted for it. -/
lemma Measurable.periodOf_bounds (h : c.Measurable) (k : Nat) :
    k * c.frameSize ≤ c.samples (c.periodOf k)
      ∧ c.samples (c.periodOf k) < k * c.frameSize + c.periodSamples := by
  have hpos := h.periodSamples_spec.1
  have hsplit := Nat.div_add_mod (k * c.frameSize + (c.periodSamples - 1)) c.periodSamples
  have hlt := Nat.mod_lt (k * c.frameSize + (c.periodSamples - 1)) (by omega : 0 < c.periodSamples)
  have hsamples : c.samples (c.periodOf k) = c.periodSamples * c.periodOf k := by
    rw [samples_eq, Nat.mul_comm]
  rw [← periodOf] at hsplit
  omega

/-- The nanoseconds times hertz which a period falls short of. -/
def lost (c : Course) : Nat :=
  c.periodSamples * Ltc.nanosPerSecond % c.baseHz

lemma lost_lt (c : Course) : c.lost < c.baseHz :=
  Nat.mod_lt _ c.baseHz_bounds.1

lemma Measurable.nanos_le (h : c.Measurable) (k : Nat) :
    c.nanos (c.samples (c.periodOf k) - k * c.frameSize) ≤ c.periodOf k * c.periodNanos := by
  obtain ⟨hle, hlt⟩ := h.periodOf_bounds k
  cases hperiods : c.periodOf k with
  | zero => simp [samples_eq, nanos]
  | succ n =>
      rw [hperiods] at hlt
      calc c.nanos (c.samples (n + 1) - k * c.frameSize)
          ≤ c.nanos c.periodSamples := c.nanos_mono (by omega)
        _ = c.periodNanos := h.nanos_periodSamples
        _ ≤ (n + 1) * c.periodNanos := Nat.le_mul_of_pos_left _ n.succ_pos

/-- The exact instant of a start, but for what the clock has lost in the periods up to it, and what
the start comes late by. -/
lemma Measurable.hz_mul_arrival_add (h : c.Measurable) (k : Nat) :
    ∃ late < c.baseHz, c.baseHz * c.arrival k + c.periodOf k * c.lost
      = k * (c.frameSize * Ltc.nanosPerSecond) + late := by
  obtain ⟨hle, -⟩ := h.periodOf_bounds k
  have hsum : c.arrival k + c.nanos (c.samples (c.periodOf k) - k * c.frameSize)
      = c.periodOf k * c.periodNanos := Nat.sub_add_cancel (h.nanos_le k)
  have hperiod := h.hz_mul_nanos_add c.periodSamples
  have hrest := h.hz_mul_nanos_add (c.samples (c.periodOf k) - k * c.frameSize)
  rw [h.nanos_periodSamples, ← lost] at hperiod
  generalize hlate : (c.samples (c.periodOf k) - k * c.frameSize) * Ltc.nanosPerSecond % c.baseHz
    = late at hrest
  refine ⟨late, hlate ▸ Nat.mod_lt _ c.baseHz_bounds.1, ?_⟩
  -- Both sides with the rest of the last period, which is exact on its own.
  have hscaled : c.baseHz * c.arrival k
      + c.baseHz * c.nanos (c.samples (c.periodOf k) - k * c.frameSize)
      = c.periodOf k * (c.baseHz * c.periodNanos) := by
    rw [← Nat.mul_add, hsum, Nat.mul_left_comm]
  have hwhole : c.periodOf k * (c.baseHz * c.periodNanos) + c.periodOf k * c.lost
      = c.samples (c.periodOf k) * Ltc.nanosPerSecond := by
    rw [← Nat.mul_add, hperiod, ← Nat.mul_assoc, samples_eq]
  have hsplit : k * (c.frameSize * Ltc.nanosPerSecond)
      + (c.samples (c.periodOf k) - k * c.frameSize) * Ltc.nanosPerSecond
      = c.samples (c.periodOf k) * Ltc.nanosPerSecond := by
    rw [← Nat.mul_assoc, ← Nat.add_mul, Nat.add_sub_cancel' hle]
  omega

/-! ## Durations of many frames -/

/-- The periods in which so many frames start are the shortest ones at most. -/
lemma Measurable.periodOf_add_le (h : c.Measurable) (k count : Nat) :
    c.periodOf k ≤ c.periodOf (k + count)
      ∧ c.periodOf (k + count) ≤ c.periodOf k + (count * c.frameSize / 8 + 1) := by
  have hpos := h.periodSamples_spec.1
  obtain ⟨hle, hlt⟩ := h.periodOf_bounds k
  obtain ⟨hle', hlt'⟩ := h.periodOf_bounds (k + count)
  rw [Nat.add_mul] at hle' hlt'
  refine ⟨Nat.div_le_div_right ?_, ?_⟩
  · rw [Nat.add_mul]
    omega
  · -- One period more would leave a whole period without the start of the last frame.
    by_contra hmore
    push Not at hmore
    have hperiods : c.samples (c.periodOf k + (count * c.frameSize / 8 + 2))
        ≤ c.samples (c.periodOf (k + count)) := Nat.mul_le_mul_right _ hmore
    have hsplit : c.samples (c.periodOf k + (count * c.frameSize / 8 + 2))
        = c.samples (c.periodOf k)
          + (count * c.frameSize / 8 + 1) * c.periodSamples + c.periodSamples := by
      rw [samples_eq, samples_eq, Nat.add_mul, Nat.add_assoc, Nat.succ_mul (_ + 1)]
    have hshort : (count * c.frameSize / 8 + 1) * 8
        ≤ (count * c.frameSize / 8 + 1) * c.periodSamples := Nat.mul_le_mul_left _ hpos
    omega

/-- So many frames take their exact duration at the most, rounded up. -/
lemma Measurable.hz_mul_arrival_add_le (h : c.Measurable) (k count : Nat) :
    c.baseHz * c.arrival (k + count)
      ≤ c.baseHz * c.arrival k + count * (c.frameSize * Ltc.nanosPerSecond) + c.baseHz := by
  obtain ⟨late, hlate, heq⟩ := h.hz_mul_arrival_add k
  obtain ⟨late', hlate', heq'⟩ := h.hz_mul_arrival_add (k + count)
  have hlost : c.periodOf k * c.lost ≤ c.periodOf (k + count) * c.lost :=
    Nat.mul_le_mul_right _ (h.periodOf_add_le k count).1
  rw [Nat.add_mul] at heq'
  omega

/-- So many frames take their exact duration at the least, without a nanosecond for each of the
shortest periods in it. -/
lemma Measurable.le_hz_mul_arrival_add (h : c.Measurable) (k count : Nat) :
    c.baseHz * c.arrival k + count * (c.frameSize * Ltc.nanosPerSecond)
      ≤ c.baseHz * c.arrival (k + count) + (count * c.frameSize / 8 + 2) * c.baseHz := by
  obtain ⟨late, hlate, heq⟩ := h.hz_mul_arrival_add k
  obtain ⟨late', hlate', heq'⟩ := h.hz_mul_arrival_add (k + count)
  have hlost : c.periodOf (k + count) * c.lost
      ≤ c.periodOf k * c.lost + (count * c.frameSize / 8 + 1) * c.baseHz := by
    calc c.periodOf (k + count) * c.lost
        ≤ (c.periodOf k + (count * c.frameSize / 8 + 1)) * c.lost :=
          Nat.mul_le_mul_right _ (h.periodOf_add_le k count).2
      _ = c.periodOf k * c.lost + (count * c.frameSize / 8 + 1) * c.lost := Nat.add_mul ..
      _ ≤ _ := Nat.add_le_add_left (Nat.mul_le_mul_left _ c.lost_lt.le) _
  rw [Nat.add_mul] at heq'
  rw [Nat.succ_mul]
  omega

lemma Measurable.arrival_mono (h : c.Measurable) : Monotone c.arrival := by
  refine monotone_nat_of_le_succ fun k => ?_
  have hframe := h.le_hz_mul_arrival_add k 1
  obtain ⟨hpos, hle⟩ := c.baseHz_bounds
  have hlong : (1 * c.frameSize / 8 + 2) * c.baseHz ≤ 1 * (c.frameSize * Ltc.nanosPerSecond) := by
    have hframeSize := c.frameSize_bounds
    refine (Nat.mul_le_mul_left _ hle).trans ?_
    unfold Ltc.nanosPerSecond
    omega
  exact Nat.le_of_mul_le_mul_left (by omega) hpos

lemma Measurable.sum_take_durations (h : c.Measurable) {k count : Nat} (hcount : count ≤ k) :
    ((c.durations (k + 1)).take count).sum + c.arrival (k + 1 - count) = c.arrival (k + 1) := by
  induction k generalizing count with
  | zero =>
      obtain rfl := Nat.le_zero.mp hcount
      simp
  | succ k ih =>
      cases count with
      | zero => simp
      | succ count =>
          have hrest := ih (Nat.le_of_succ_le_succ hcount)
          have hmono : c.arrival (k + 1) ≤ c.arrival (k + 1 + 1) :=
            h.arrival_mono (Nat.le_succ (k + 1))
          have hnewest : c.durations (k + 1 + 1)
              = (c.arrival (k + 1 + 1) - c.arrival (k + 1)) :: c.durations (k + 1) := rfl
          rw [hnewest, List.take_succ_cons, List.sum_cons, Nat.add_sub_add_right]
          omega

lemma length_durations (c : Course) (k : Nat) : (c.durations k).length = k - 1 := by
  induction k with
  | zero => rfl
  | succ k ih =>
      cases k with
      | zero => rfl
      | succ k =>
          rw [durations, List.length_cons, ih]
          omega

/-! ## The speed of the window -/

/-- The newest durations together, against so many exact ones. -/
lemma Measurable.sum_durations_bounds (h : c.Measurable) {k count : Nat} (hpos : 0 < count)
    (hcount : count ≤ k) :
    count * (c.frameSize * Ltc.nanosPerSecond)
        ≤ c.baseHz * ((c.durations (k + 1)).take count).sum
          + count * (c.baseHz * (c.frameSize / 8 + 3))
      ∧ c.baseHz * ((c.durations (k + 1)).take count).sum
        ≤ count * (c.frameSize * Ltc.nanosPerSecond + c.baseHz) := by
  have hsum : c.baseHz * ((c.durations (k + 1)).take count).sum
      + c.baseHz * c.arrival (k + 1 - count) = c.baseHz * c.arrival (k + 1) := by
    rw [← Nat.mul_add, h.sum_take_durations hcount]
  have hlow := h.le_hz_mul_arrival_add (k + 1 - count) count
  have hhigh := h.hz_mul_arrival_add_le (k + 1 - count) count
  have hlast : k + 1 - count + count = k + 1 := Nat.sub_add_cancel (hcount.trans (Nat.le_succ k))
  have hround : c.baseHz ≤ count * c.baseHz := Nat.le_mul_of_pos_left _ hpos
  -- What is lost in all the frames together is at most what each frame can lose by itself.
  have hshort : (count * c.frameSize / 8 + 2) * c.baseHz
      ≤ count * (c.baseHz * (c.frameSize / 8 + 3)) := by
    have hframe : c.frameSize ≤ 8 * (c.frameSize / 8 + 1) := by omega
    have hframes : count * c.frameSize / 8 ≤ count * (c.frameSize / 8 + 1) := by
      refine Nat.div_le_of_le_mul ?_
      rw [Nat.mul_left_comm]
      exact Nat.mul_le_mul_left _ hframe
    rw [← Nat.mul_assoc, Nat.mul_right_comm]
    refine Nat.mul_le_mul_right _ ?_
    rw [Nat.mul_add] at hframes ⊢
    omega
  rw [hlast] at hlow hhigh
  rw [Nat.mul_add count]
  omega

/-- The microseconds to which the average duration of a frame can be rounded, and the pull factor
which all of them give. There is room for what the clock loses in periods of eight samples. -/
lemma exists_micros (c : Course) :
    ∃ low high, 0 < low
      ∧ c.baseHz * (low * 1000 + (c.frameSize / 8 + 3)) ≤ c.frameSize * Ltc.nanosPerSecond
      ∧ c.frameSize * Ltc.nanosPerSecond + c.baseHz < c.baseHz * ((high + 1) * 1000)
      ∧ (1000000000 / low + c.format.rate.fps / 2) / c.format.rate.fps ≤ c.format.rate.scale
      ∧ c.format.rate.scale
        ≤ (1000000000 / high + c.format.rate.fps / 2) / c.format.rate.fps := by
  unfold frameSize baseHz
  -- Each frame rate at 44.1 kHz and then at 48 kHz.
  cases c.format.rate <;> cases Tco.BaseRate.ofCard c.rate.base
  · exact ⟨41655, 41655, by decide⟩
  · exact ⟨41666, 41666, by decide⟩
  · exact ⟨39999, 40000, by decide⟩
  · exact ⟨39999, 40000, by decide⟩
  · exact ⟨33355, 33356, by decide⟩
  · exact ⟨33353, 33354, by decide⟩
  · exact ⟨33333, 33333, by decide⟩
  · exact ⟨33333, 33333, by decide⟩

lemma Measurable.pullFactor_eq (h : c.Measurable) {w : Ltc.Window} (hw : w.Holds (c.durations k))
    (hk : 2 ≤ k) : w.pullFactor c.format.rate.fps = c.format.rate.scale := by
  obtain ⟨low, high, hpos, hlow, hhigh, hfast, hslow⟩ := c.exists_micros
  obtain ⟨k, rfl⟩ := Nat.exists_eq_succ_of_ne_zero (by omega : k ≠ 0)
  have hcount : w.count = k := by
    rw [hw.count_eq, length_durations, Nat.succ_sub_one]
  have htotal : w.total = ((c.durations (k + 1)).take (min w.count 16)).sum := by
    rw [hw.total_eq, List.take_eq_take_min, length_durations, Nat.succ_sub_one, hcount,
      Nat.min_comm]
  have hsome : 0 < min w.count 16 := by omega
  obtain ⟨hbelow, habove⟩ := h.sum_durations_bounds hsome (by omega : _ ≤ k)
  rw [← htotal] at hbelow habove
  have hlow' := Nat.mul_le_mul_left (min w.count 16) hlow
  have hhigh' := Nat.mul_lt_mul_of_pos_left hhigh hsome
  refine Ltc.Window.pullFactor_eq_of_bounds (by omega) ?_ hpos ?_ ?_ hfast hslow ?_
  · cases c.format.rate <;> decide
  · refine Nat.le_of_mul_le_mul_left ?_ c.baseHz_bounds.1
    rw [Nat.mul_add c.baseHz, Nat.mul_add] at hlow'
    rw [← Nat.mul_assoc, Nat.mul_comm _ (min w.count 16)]
    omega
  · refine Nat.lt_of_mul_lt_mul_left (a := c.baseHz) ?_
    rw [← Nat.mul_assoc, Nat.mul_comm _ (min w.count 16)]
    omega
  · cases c.format.rate <;> decide

lemma At.timed_zero {t : Session} (h : c.At t 0) : c.Timed t.bench.card 0 := by
  obtain ⟨m, hm, -, hhears, hfresh⟩ := h.ready.module
  have hidle := (hhears.publishes hfresh).idle c.starts_zero
  refine ⟨m, hm, ?_⟩
  rw [hidle, starts_zero]
  exact c.times_default

end Session.Course

namespace Session

variable {s : Settings} {latency : Nat} {rate : ClockRate} {timeCode : TimeCode}

lemma course_measurable (hlatency : s.model.latencyCode? s.periodSize = some latency)
    (hrequest : ∀ r, s.request = some r → r.InRange) (hbase : rate.base ≠ .hz32000) (now : Nat)
    (timeCode : TimeCode) : (s.course now rate timeCode).Measurable where
  toFits := course_fits hlatency hrequest now rate timeCode
  periodSize_pos := by
    show 0 < s.periodSize
    rw [← CardModel.periodSize_of_latencyCode? hlatency]
    exact (s.model.periodSize_bounds latency).1
  base_ne := hbase

/-! ## Main result -/

/-- **Nominal speed.** A session with a time code module, on any model but MADIface and at any rate
of which the module has the base rate, measures the nominal speed of the time code at its input. It
opens, and comes through its periods unless its first interrupt has to schedule a request which
overruns. Once two time code frames have started, what is published is 999 per mille for the two
formats at 29.97 frames per second and 1000 for all others, after any number of periods in which
the clock does not wrap around. -/
theorem nominal_speed (hmodel : s.model ≠ .madiFace) (hmodule : s.hasModule = true)
    (hrate : ClockRate.ofHz? s.rate = some rate) (hbase : rate.base ≠ .hz32000)
    (hlatency : s.model.latencyCode? s.periodSize = some latency)
    (hinput : s.timeCodeIn = some timeCode) (hrequest : ∀ r, s.request = some r → r.InRange)
    (now : Nat) :
    ∃ t, open? s now = .ok t ∧ t.periodNanos = s.periodSize * Ltc.nanosPerSecond / rate.hz
      ∧ ∀ n < 2 ^ 32, now + n * t.periodNanos < 2 ^ 64 →
        ((∃ t', periods 0 n t = .ok t')
            ↔ n = 0 ∨ ¬ s.Overruns ((now + t.periodNanos) % 2 ^ 64))
          ∧ ∀ t', periods 0 n t = .ok t' →
            t'.starts = n * (s.periodSize / rate.speed.factor)
                / s.format.rate.frameSize (Tco.BaseRate.ofCard rate.base).hz
              ∧ ∃ m, t'.bench.card.module = some m
                ∧ (2 ≤ t'.starts →
                  m.input.pullFactor = if s.format.rate = .fps2997 then 999 else 1000) := by
  have hc := course_measurable hlatency hrequest hbase now timeCode
  obtain ⟨t, hopen, hat⟩ := exists_open? hmodel hmodule hrate hlatency hinput now
  refine ⟨t, hopen, hat.periodNanos_eq, fun n hn hwrap =>
    ⟨exists_periods_iff_of_course hat hc.toFits hn, fun t' hperiods => ?_⟩⟩
  rw [hat.periodNanos_eq] at hwrap
  have hlast := hat.of_periods hc.toFits (by omega) hperiods
  obtain ⟨m, hm, htimes⟩ :=
    hat.timed_periods hat.timed_zero hc (by omega) (by rwa [Nat.zero_add]) hperiods
  rw [Nat.zero_add] at hlast htimes
  obtain ⟨m', hm', -, -, hfresh⟩ := hlast.ready.module
  obtain rfl := Option.some.inj (hm.symm.trans hm')
  refine ⟨hlast.starts_eq, m, hm, fun hstarts => ?_⟩
  rw [hlast.starts_eq] at hstarts
  rw [htimes.pullFactor_eq hfresh, hc.pullFactor_eq htimes.measures.holds hstarts]
  show s.format.rate.scale = _
  cases s.format.rate <;> rfl

/-- Sixty periods at quadruple speed, in which two time code frames start at 29.97 frames per
second. -/
theorem nominal_speed_pulled_down :
    ∃ t t', open? {
        model := .rayDat
        rate := 176400
        periodSize := 256
        format := .fps2997Drop
        timeCodeIn := some (.ofFields ⟨10, 0, 0, 0⟩) } 0 = .ok t
      ∧ periods 0 60 t = .ok t' ∧ t'.starts = 2
      ∧ ∃ m, t'.bench.card.module = some m ∧ m.input.pullFactor = 999 := by
  obtain ⟨t, hopen, hnanos, hcourse⟩ := nominal_speed (s := {
      model := .rayDat
      rate := 176400
      periodSize := 256
      format := .fps2997Drop
      timeCodeIn := some (.ofFields ⟨10, 0, 0, 0⟩) })
    (by decide) rfl (show _ = some ⟨.hz44100, .quadruple⟩ from rfl) (by decide)
    (show _ = some 2 from rfl) rfl (fun _ hr => nomatch hr) 0
  obtain ⟨hcomplete, hresult⟩ := hcourse 60 (by decide) (by rw [hnanos]; decide)
  obtain ⟨t', hperiods⟩ := hcomplete.mpr (.inr fun ⟨_, hr, _⟩ => nomatch hr)
  obtain ⟨hstarts, m, hm, hpull⟩ := hresult t' hperiods
  exact ⟨t, t', hopen, hperiods, hstarts, m, hm, hpull (hstarts ▸ by decide)⟩

end Session

end TimecodeCard
