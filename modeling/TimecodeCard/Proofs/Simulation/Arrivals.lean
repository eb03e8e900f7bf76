import Mathlib.Tactic
import TimecodeCard.Proofs.Simulation.Course

/-!
# Arrivals of time code frames

The clock of a session stops at each start of a time code frame, at a distance from the end of the
period which is rounded to nanoseconds. `Session.Course.arrival` is the instant of a start by this
clock, which counts whole periods, and so the durations between the starts are known as well
(`Session.Course.durations`).

`Session.Course.Times` says that an input has timed the starts so far. Within a period it is kept
from one start to the next (`Session.Course.Within.frameStart`), and the interrupt publishes the
speed which they come to. It holds of the input after any number of periods, as long as the clock
does not wrap around (`Session.Course.At.timed_periods`).
-/

namespace TimecodeCard.Session.Course

variable {c : Course} {n k : Nat}

/-! ## Instants -/

/-- The number of samples in a period, at single speed. -/
def periodSamples (c : Course) : Nat :=
  c.periodSize / c.rate.speed.factor

/-- The length of so many samples at single speed in nanoseconds, as the session rounds it. -/
def nanos (c : Course) (samples : Nat) : Nat :=
  samples * Ltc.nanosPerSecond * c.rate.speed.factor / c.rate.hz

/-- How much of the period after so many of them goes by until so many frames have started. -/
def elapsedAt (c : Course) (n k : Nat) : Nat :=
  c.periodNanos - c.nanos (c.samples (n + 1) - k * c.frameSize)

/-- The number of periods at the end of which so many time code frames have started. -/
def periodOf (c : Course) (k : Nat) : Nat :=
  (k * c.frameSize + (c.periodSamples - 1)) / c.periodSamples

/-- The instant at which the time code frame of the number starts, counted from the start of the
clock. -/
def arrival (c : Course) (k : Nat) : Nat :=
  c.periodOf k * c.periodNanos - c.nanos (c.samples (c.periodOf k) - k * c.frameSize)

/-- The durations between so many starts, newest first. -/
def durations (c : Course) : Nat → List Nat
  | 0 => []
  | 1 => []
  | k + 2 => (c.arrival (k + 2) - c.arrival (k + 1)) :: c.durations (k + 1)

/-- Whether the course measures a time code: a period has samples, and the module has the base rate
of the card. -/
structure Measurable (c : Course) : Prop extends c.Fits where
  periodSize_pos : 0 < c.periodSize
  base_ne : c.rate.base ≠ .hz32000

lemma samples_eq (c : Course) (n : Nat) : c.samples n = n * c.periodSamples := rfl

lemma samples_succ (c : Course) (n : Nat) : c.samples (n + 1) = c.samples n + c.periodSamples := by
  rw [samples_eq, samples_eq, Nat.succ_mul]

lemma nanos_mono (c : Course) {x y : Nat} (h : x ≤ y) : c.nanos x ≤ c.nanos y :=
  Nat.div_le_div_right (Nat.mul_le_mul_right _ (Nat.mul_le_mul_right _ h))

lemma Measurable.periodSamples_spec (h : c.Measurable) :
    8 ≤ c.periodSamples ∧ c.periodSamples * c.rate.speed.factor = c.periodSize := by
  obtain ⟨x, hx⟩ := h.dvd_periodSize
  have hpos := h.periodSize_pos
  unfold periodSamples
  rw [hx] at hpos ⊢
  cases c.rate.speed <;> simp only [Speed.factor] <;> omega

lemma Measurable.nanos_periodSamples (h : c.Measurable) :
    c.nanos c.periodSamples = c.periodNanos := by
  rw [nanos, Nat.mul_right_comm, h.periodSamples_spec.2]
  rfl

/-- A period ends with the samples which are missing to the start of a frame in it. -/
lemma Measurable.periodOf_eq (h : c.Measurable) (hlo : c.samples n < k * c.frameSize)
    (hhi : k * c.frameSize ≤ c.samples (n + 1)) : c.periodOf k = n + 1 := by
  have hpos := h.periodSamples_spec.1
  have hnext := c.samples_succ n
  have hlast := c.samples_succ (n + 1)
  refine Nat.div_eq_of_lt_le ?_ ?_
  · rw [← samples_eq]
    omega
  · rw [← samples_eq]
    omega

lemma Measurable.arrival_eq (h : c.Measurable) (hlo : c.samples n < k * c.frameSize)
    (hhi : k * c.frameSize ≤ c.samples (n + 1)) :
    c.arrival k = n * c.periodNanos + c.elapsedAt n k := by
  have hnext := c.samples_succ n
  have hle : c.nanos (c.samples (n + 1) - k * c.frameSize) ≤ c.periodNanos := by
    rw [← h.nanos_periodSamples]
    exact c.nanos_mono (by omega)
  rw [arrival, h.periodOf_eq hlo hhi, Nat.succ_mul, elapsedAt]
  omega

/-! ## Boundaries -/

/-- Whether the input has timed so many starts of time code frames, and has published the speed of
the time code which they come to, unless that waits for the interrupt. -/
structure Times (c : Course) (input : Ltc.Tracker) (k : Nat) : Prop where
  measures : input.Measures (c.durations k)
  lastArrival_eq : input.lastArrival = if k = 0 then none else some (c.start + c.arrival k)
  pullFactor_eq : input.fresh = false →
    input.pullFactor = input.window.pullFactor c.format.rate.fps

variable {input input' : Ltc.Tracker}

lemma times_default (c : Course) : c.Times {} 0 where
  measures := ⟨Ltc.Window.holds_nil, fun _ h => nomatch h⟩
  lastArrival_eq := rfl
  pullFactor_eq _ := rfl

/-- **Step.** The next start of a frame is timed. -/
lemma Times.boundary (h : c.Times input k) (hshort : c.arrival (k + 1) < Ltc.maxDuration)
    (hboundary : input.boundary (c.start + c.arrival (k + 1)) = .ok input') :
    c.Times input' (k + 1) := by
  have htime : input.InTime (c.start + c.arrival (k + 1)) := by
    intro before hbefore
    rw [h.lastArrival_eq] at hbefore
    split at hbefore
    · cases hbefore
    · obtain rfl := Option.some.inj hbefore
      omega
  have hdurations : input.durationsAt (c.start + c.arrival (k + 1)) (c.durations k)
      = c.durations (k + 1) := by
    rw [Ltc.Tracker.durationsAt, h.lastArrival_eq]
    cases k with
    | zero => rfl
    | succ k =>
        rw [if_neg (Nat.succ_ne_zero k)]
        simp only [Nat.add_sub_add_left]
        rfl
  have hmeasures := h.measures.of_boundary htime hboundary
  rw [hdurations] at hmeasures
  obtain ⟨window, -, rfl⟩ := exists_of_map_eq_ok hboundary
  refine ⟨hmeasures, (if_neg (Nat.succ_ne_zero k)).symm, ?_⟩
  intro hfresh
  cases hfresh

/-! ## Within a period -/

/-- Whether the session is within a period, after so many of them, and its input has timed so many
starts of frames. -/
structure Within (c : Course) (t : Session) (n k elapsed : Nat) : Prop where
  rate_eq : t.rate = c.rate
  periodNanos_eq : t.periodNanos = c.periodNanos
  now_eq : t.bench.now % 2 ^ 64 = (c.start + (n * c.periodNanos + elapsed)) % 2 ^ 64
  elapsed_le : elapsed ≤ c.elapsedAt n k
  module : ∃ m, t.bench.card.module = some m ∧ c.Times m.input k

variable {t u : Session} {elapsed elapsed' : Nat} {fs : FrameStart} {list : List FrameStart}

lemma elapsedAt_mono (c : Course) (n k : Nat) : c.elapsedAt n k ≤ c.elapsedAt n (k + 1) := by
  refine Nat.sub_le_sub_left (c.nanos_mono ?_) c.periodNanos
  rw [Nat.succ_mul]
  omega

/-- **Step.** The start of the next frame is timed. -/
lemma Within.frameStart (h : c.Within t n k elapsed) (hc : c.Measurable)
    (hfs : fs.samples = c.samples (n + 1) - (k + 1) * c.frameSize)
    (hlo : c.samples n < (k + 1) * c.frameSize) (hhi : (k + 1) * c.frameSize ≤ c.samples (n + 1))
    (hn : n + 1 < 2 ^ 32) (hwrap : c.start + (n + 1) * c.periodNanos < 2 ^ 64)
    (hok : t.frameStart c.rate.speed.factor elapsed fs = .ok (elapsed', u)) :
    c.Within u n (k + 1) elapsed' := by
  obtain ⟨m, hm, htimes⟩ := h.module
  have hinstant : max (t.periodNanos
      - fs.samples * Ltc.nanosPerSecond * c.rate.speed.factor / t.rate.hz) elapsed
      = c.elapsedAt n (k + 1) := by
    rw [h.periodNanos_eq, h.rate_eq, hfs]
    exact max_eq_left (h.elapsed_le.trans (c.elapsedAt_mono n k))
  obtain ⟨rfl, input, hinput, rfl⟩ := exists_of_frameStart hm hinstant hok
  have harrival := hc.arrival_eq hlo hhi
  have hle := h.elapsed_le.trans (c.elapsedAt_mono n k)
  have hend : c.elapsedAt n (k + 1) ≤ c.periodNanos := Nat.sub_le _ _
  have hnanos := hc.nanos_lt hn
  rw [Nat.succ_mul] at hwrap hnanos
  have hnow : (t.bench.tick (c.elapsedAt n (k + 1) - elapsed)).now
      = c.start + c.arrival (k + 1) := by
    rw [Bench.now_tick h.now_eq, Nat.mod_eq_of_lt (by omega)]
    omega
  rw [hnow] at hinput ⊢
  exact {
    rate_eq := h.rate_eq
    periodNanos_eq := h.periodNanos_eq
    now_eq := congrArg (fun instant => (c.start + instant) % 2 ^ 64) harrival
    elapsed_le := le_rfl
    module := ⟨_, rfl, htimes.boundary (by omega) hinput⟩ }

/-- **Run.** The starts of the frames in a period are timed, which are the next ones. -/
lemma Within.frameStarts (h : c.Within t n k elapsed) (hc : c.Measurable)
    (hfs : ∀ i fs, list[i]? = some fs →
      fs.samples = c.samples (n + 1) - (k + (i + 1)) * c.frameSize)
    (hlo : c.samples n < (k + 1) * c.frameSize)
    (hhi : (k + list.length) * c.frameSize ≤ c.samples (n + 1))
    (hn : n + 1 < 2 ^ 32) (hwrap : c.start + (n + 1) * c.periodNanos < 2 ^ 64)
    (hok : frameStarts c.rate.speed.factor elapsed t list = .ok (elapsed', u)) :
    c.Within u n (k + list.length) elapsed' := by
  induction list generalizing t k elapsed with
  | nil =>
      obtain ⟨rfl, rfl⟩ := Prod.mk.inj (Except.ok.inj hok)
      exact h
  | cons fs rest ih =>
      obtain ⟨⟨elapsed₁, v⟩, hstart, hrest⟩ := exists_of_bind_eq_ok hok
      rw [List.length_cons, Nat.add_comm rest.length, ← Nat.add_assoc] at hhi ⊢
      have hfirst : (k + 1) * c.frameSize ≤ c.samples (n + 1) :=
        (Nat.mul_le_mul_right _ (Nat.le_add_right _ _)).trans hhi
      have hlater : (k + 1) * c.frameSize ≤ (k + 1 + 1) * c.frameSize :=
        Nat.mul_le_mul_right _ (Nat.le_succ _)
      refine ih (h.frameStart hc (hfs 0 fs rfl) hlo hfirst hn hwrap hstart) (fun i fs' hi => ?_)
        (hlo.trans_le hlater) hhi hrest
      have hindex : k + (i + 1 + 1) = k + 1 + (i + 1) := by omega
      rw [hfs (i + 1) fs' hi, hindex]

/-! ## Many periods -/

/-- Whether the input has timed all frames which have started within so many periods. -/
def Timed (c : Course) (card : Card (Recorded Simulator)) (n : Nat) : Prop :=
  ∃ m, card.module = some m ∧ c.Times m.input (c.starts n)

variable {t' : Session} {card : Card (Recorded Simulator)} {d : Recorded Simulator}

lemma Times.period (h : c.Times input k) (hmodule : d.device.hasModule = true)
    (hshows : d.device.Shows (c.feed n)) (frames speed : Nat) :
    c.Times (input.period d frames speed).1 k := by
  obtain ⟨timeCode, startFrame, pullFactor, fresh, hkept⟩ := input.exists_period_eq d frames speed
  have hwindow : (input.period d frames speed).1.window = input.window := by
    rw [hkept]
  have harrival : (input.period d frames speed).1.lastArrival = input.lastArrival := by
    rw [hkept]
  refine ⟨h.measures.period d frames speed, harrival.trans h.lastArrival_eq, fun hfresh => ?_⟩
  rw [hwindow]
  cases hheard : input.fresh with
  | false =>
      have hperiod : (input.period d frames speed).1 = input := by
        rw [Ltc.Tracker.period, if_neg (by rw [hheard]; decide)]
      rw [hperiod]
      exact h.pullFactor_eq hheard
  | true =>
      obtain ⟨-, -, hpull, -⟩ := Ltc.Tracker.period_of_shows hheard hmodule hshows frames speed
      exact hpull

/-- The samples from the start of a frame in the next period to the end of the period. -/
lemma samples_of_advance {i : Nat}
    (h : ((c.feed n).advance c.frameSize (c.periodSize / c.rate.speed.factor)).1[i]? = some fs) :
    fs.samples = c.samples (n + 1) - (c.starts n + (i + 1)) * c.frameSize := by
  have helapsed : (c.feed n).elapsed = c.samples n % c.frameSize := rfl
  have hsplit := Nat.div_add_mod (c.samples n) c.frameSize
  rw [Feed.samples_of_crossAll h, samples_succ, periodSamples, starts, Nat.add_mul _ (i + 1),
    Nat.mul_comm (c.samples n / c.frameSize)]
  simp only [helapsed]
  omega

/-- The frames which start in the next period are timed. -/
lemma At.timed_heard (h : c.At t n) (htimed : c.Timed t.bench.card n) (hc : c.Measurable)
    (hn : n + 1 < 2 ^ 32) (hwrap : c.start + (n + 1) * c.periodNanos < 2 ^ 64)
    (hstarts : frameStarts c.rate.speed.factor 0 { t with bench := t.bench.advance.2 }
      t.bench.advance.1 = .ok (elapsed, u)) : c.Timed u.bench.card (n + 1) := by
  obtain ⟨m, hm, htimes⟩ := htimed
  obtain ⟨s, hadvance, -, -⟩ := h.ready.runs.advance
  obtain ⟨hlength, -⟩ := c.advance_feed n
  rw [hadvance] at hstarts
  have hwithin : c.Within { t with bench := t.bench.withRegisters s } n (c.starts n) 0 := {
    rate_eq := h.rate_eq
    periodNanos_eq := h.periodNanos_eq
    now_eq := by
      rw [Nat.add_zero]
      exact h.now_eq
    elapsed_le := Nat.zero_le _
    module := ⟨m, hm, htimes⟩ }
  have hcount := Nat.add_sub_cancel' (c.starts_mono n)
  rw [← hlength] at hcount
  have hlo : c.samples n < (c.starts n + 1) * c.frameSize := by
    have hframeSize := c.frameSize_bounds
    exact Nat.lt_mul_of_div_lt (Nat.lt_succ_self _) (by omega)
  have hhi : c.starts (n + 1) * c.frameSize ≤ c.samples (n + 1) := Nat.div_mul_le_self _ _
  rw [← hcount] at hhi
  have hlast := hwithin.frameStarts hc (fun _ _ => samples_of_advance) hlo hhi hn hwrap hstarts
  rw [hcount] at hlast
  exact hlast.module

/-- **Step.** A period leads to the input which has timed all frames up to its end. -/
lemma At.timed_period (h : c.At t n) (htimed : c.Timed t.bench.card n) (hc : c.Measurable)
    (hn : n + 1 < 2 ^ 32) (hwrap : c.start + (n + 1) * c.periodNanos < 2 ^ 64)
    (hperiod : t.period = .ok t') : c.Timed t'.bench.card (n + 1) := by
  obtain ⟨elapsed, u, hstarts, hdue, heq⟩ := h.exists_heard hc.toFits hn
  obtain ⟨m, hm, htimes⟩ := h.timed_heard htimed hc hn hwrap hstarts
  obtain ⟨i, hi, rfl⟩ := exists_of_map_eq_ok (heq.symm.trans hperiod)
  obtain ⟨m', d, -, hm', -, hmodule, hshows, hinput⟩ := hdue.exists_served hc.toFits hn hi hm
  exact ⟨m', hm', hinput ▸ htimes.period hmodule hshows _ _⟩

lemma Timed.pollAfter (h : c.Timed t.bench.card n) (periods : Nat) :
    c.Timed (t.pollAfter periods).bench.card n := by
  obtain ⟨m, hm, htimes⟩ := h
  unfold Session.pollAfter
  split
  · unfold Card.poll
    rw [hm]
    exact ⟨_, rfl, htimes⟩
  · exact ⟨m, hm, htimes⟩

/-- **Run.** Any number of periods leads to the input which has timed all frames so far. -/
lemma At.timed_periods {done : Nat} (h : c.At t done) (htimed : c.Timed t.bench.card done)
    (hc : c.Measurable) (hn : done + n < 2 ^ 32)
    (hwrap : c.start + (done + n) * c.periodNanos < 2 ^ 64)
    (hperiods : periods done n t = .ok t') : c.Timed t'.bench.card (done + n) := by
  induction n generalizing done t with
  | zero =>
      obtain rfl := Except.ok.inj hperiods
      exact htimed
  | succ n ih =>
      obtain ⟨u, hperiod, hperiods⟩ := exists_of_bind_eq_ok hperiods
      have hle : (done + 1) * c.periodNanos ≤ (done + (n + 1)) * c.periodNanos :=
        Nat.mul_le_mul_right _ (by omega)
      have hnext := h.timed_period htimed hc (by omega) (by omega) hperiod
      rw [← Nat.succ_add_eq_add_succ] at hn hwrap ⊢
      exact ih ((h.of_period hc.toFits (by omega) hperiod).pollAfter (done + 1))
        (hnext.pollAfter (done + 1)) hn hwrap hperiods

end TimecodeCard.Session.Course
