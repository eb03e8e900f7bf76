import Mathlib.Tactic
import TimecodeCard.Simulation.Session
import TimecodeCard.Proofs.Simulation.Boundaries
import TimecodeCard.Proofs.Simulation.InStep

/-!
# Course of a session

A `Session.Course` is what the input of a session depends on. From it follows where the session is
after any number of periods (`Session.Course.At`): how far the clock has gone, which time code is
fed to the input, how many time code frames have started, and what the module has published of
them. A period first brings the card where all boundaries of the period are noted
(`Session.Course.Due`), and then the interrupt reads and publishes the time code, which leads to the
next number of periods (`Session.Course.At.of_period`). Many periods follow by induction
(`Session.Course.At.of_periods`). Only the first of them can fail, where a request waits
(`Session.Course.At.exists_periods_iff`).
-/

namespace TimecodeCard

/-! ## What is published -/

namespace Ltc.Tracker

/-- Whether the tracker has published the last of so many starts of time code frames. The time code
in the registers is of the frame before, which the tracker makes up for. Before the first start
nothing is published. -/
structure Publishes (t : Tracker) (c : Counting) (timeCode : TimeCode) (frameSize count : Nat) :
    Prop where
  idle : count = 0 → t = {}
  timeCode_eq : 0 < count → t.timeCode = Nat.repeat (TimeCode.increment c) (count + 1) timeCode
  startFrame_eq : 0 < count → t.startFrame = frameSize * count

/-- An interrupt after a boundary publishes the successor of the time code in the registers. -/
lemma period_of_shows {t : Tracker} {d : Recorded Simulator} {f : Feed} (hfresh : t.fresh = true)
    (hmodule : d.device.hasModule = true) (hshows : d.device.Shows f) (frames speed : Nat) :
    (t.period d frames speed).1.timeCode = f.timeCode.increment (f.rate.counting f.dropFrame)
      ∧ (t.period d frames speed).1.startFrame = frames - f.elapsed % 0x4000 * speed
      ∧ (t.period d frames speed).1.pullFactor = t.window.pullFactor f.rate.fps
      ∧ (t.period d frames speed).1.fresh = false := by
  obtain ⟨hreading, -⟩ := Simulator.readTimeCode_eq hmodule
  unfold period
  rw [if_pos hfresh]
  simp only [publish, hreading, hshows.timeCode_eq, hshows.rate_eq, hshows.dropFrame_eq,
    hshows.offset_eq, and_self]

end Ltc.Tracker

namespace Session

/-! ## Course of a session -/

/-- What the input of a session depends on. -/
structure Course where
  /-- The start of the clock. -/
  start : Nat
  rate : ClockRate
  periodSize : Nat
  format : Format
  /-- The time code at the input when the session starts. -/
  timeCode : TimeCode
  /-- The request which waits for the first interrupt. -/
  waiting : Option Ltc.Request

namespace Course

/-- The number of samples in so many periods, at single speed. -/
def samples (c : Course) (n : Nat) : Nat :=
  n * (c.periodSize / c.rate.speed.factor)

/-- The number of samples in a time code frame, at single speed. -/
def frameSize (c : Course) : Nat :=
  c.format.rate.frameSize (Tco.BaseRate.ofCard c.rate.base).hz

/-- The number of time code frames which start within so many periods. -/
def starts (c : Course) (n : Nat) : Nat :=
  c.samples n / c.frameSize

/-- The length of a period in nanoseconds. -/
def periodNanos (c : Course) : Nat :=
  c.periodSize * Ltc.nanosPerSecond / c.rate.hz

/-- The clock after so many periods. -/
def clock (c : Course) (n : Nat) : Nat :=
  (c.start + n * c.periodNanos) % 2 ^ 64

/-- The feed after so many periods. -/
def feed (c : Course) (n : Nat) : Feed :=
  .running c.timeCode c.format.rate c.format.dropFrame c.frameSize (c.samples n)

/-- Whether the period is one of the lengths of the card, and the request is in range. -/
structure Fits (c : Course) : Prop where
  dvd_periodSize : 32 ∣ c.periodSize
  periodSize_le : c.periodSize ≤ 8192
  waiting : ∀ r, c.waiting = some r → r.InRange

variable {c : Course} {n : Nat}

lemma frameSize_bounds (c : Course) : 1470 ≤ c.frameSize ∧ c.frameSize ≤ 2002 :=
  Ltc.frameSize_bounds _ _

lemma Fits.mul_samples (h : c.Fits) (n : Nat) :
    c.rate.speed.factor * c.samples n = n * c.periodSize := by
  have hdvd : c.rate.speed.factor ∣ c.periodSize := by
    refine dvd_trans ?_ h.dvd_periodSize
    cases c.rate.speed <;> decide
  rw [samples, Nat.mul_left_comm, Nat.mul_div_cancel' hdvd]

lemma Fits.startFrame_eq (h : c.Fits) (n : Nat) :
    n * c.periodSize - (c.feed n).elapsed % 0x4000 * c.rate.speed.factor
      = c.rate.speed.factor * c.frameSize * c.starts n := by
  have hframeSize := c.frameSize_bounds
  have hlt : c.samples n % c.frameSize < c.frameSize := Nat.mod_lt _ (by omega)
  have hsplit := Nat.div_add_mod (c.samples n) c.frameSize
  show _ - c.samples n % c.frameSize % 0x4000 * _ = _
  rw [Nat.mod_eq_of_lt (by omega), ← h.mul_samples, Nat.mul_comm _ c.rate.speed.factor,
    ← Nat.mul_sub, starts, Nat.mul_assoc]
  congr 1
  omega

lemma starts_mono (c : Course) (n : Nat) : c.starts n ≤ c.starts (n + 1) :=
  Nat.div_le_div_right (Nat.mul_le_mul_right _ (Nat.le_succ n))

lemma Fits.starts_lt (h : c.Fits) (hn : n < 2 ^ 32) : c.starts n < 2 ^ 64 := by
  have hsamples : c.samples n ≤ 2 ^ 32 * 8192 := by
    refine Nat.mul_le_mul hn.le ?_
    exact le_trans (Nat.div_le_self _ _) h.periodSize_le
  have hle : c.starts n ≤ c.samples n := Nat.div_le_self _ _
  omega

/-- A period of the longest length at the lowest rate takes about a quarter of a second. -/
lemma Fits.periodNanos_le (h : c.Fits) : c.periodNanos ≤ 256000000 := by
  have hhz : 32000 ≤ c.rate.hz := by
    obtain ⟨base, speed⟩ := c.rate
    cases base <;> cases speed <;> decide
  refine (Nat.div_le_div (Nat.mul_le_mul_right _ h.periodSize_le) hhz (by decide)).trans ?_
  decide

lemma Fits.nanos_lt (h : c.Fits) (hn : n < 2 ^ 32) : n * c.periodNanos < Ltc.maxDuration := by
  have hle : n * c.periodNanos ≤ n * 256000000 := Nat.mul_le_mul_left _ h.periodNanos_le
  show _ < 2 ^ 60
  omega

/-! ## The session in its course -/

/-- Whether the card runs as the course has it. -/
structure Runs (c : Course) (card : Card (Recorded Simulator)) (served moved : Nat) : Prop where
  inStep : card.InStep served moved
  started : card.control.started = true
  enabled : card.control.interruptEnabled = true
  rate_eq : card.rate = c.rate
  periodSize_eq : card.position.periodSize = c.periodSize
  feed_eq : card.device.device.feed = some (c.feed moved)

/-- Whether the input has noted every start of a time code frame, and has published the last of
them, unless that waits for the interrupt. -/
structure Hears (c : Course) (input : Ltc.Tracker) (n : Nat) : Prop where
  clocked : input.Clocked c.start (n * c.periodNanos) (c.starts n)
  publishes : input.fresh = false → input.Publishes c.format.counting c.timeCode
    (c.rate.speed.factor * c.frameSize) (c.starts n)
  starts_pos : input.fresh = true → 0 < c.starts n

/-- The request which waits after so many periods. -/
def waitingAt (c : Course) (n : Nat) : Option Ltc.Request :=
  if n = 0 then c.waiting else none

/-- Whether the card is between two periods, after so many of them. -/
structure Ready (c : Course) (card : Card (Recorded Simulator)) (n : Nat) : Prop where
  runs : c.Runs card n n
  module : ∃ m, card.module = some m ∧ m.output.pending = c.waitingAt n ∧ c.Hears m.input n
    ∧ m.input.fresh = false

/-- Whether the card is to serve the next interrupt, after so many periods. -/
structure Due (c : Course) (card : Card (Recorded Simulator)) (n : Nat) : Prop where
  runs : c.Runs card n (n + 1)
  shows : card.device.device.Shows (c.feed (n + 1))
  module : ∃ m, card.module = some m ∧ m.output.pending = c.waitingAt n
    ∧ c.Hears m.input (n + 1)

/-- Whether the session has come through so many periods. -/
structure At (c : Course) (t : Session) (n : Nat) : Prop where
  ready : c.Ready t.bench.card n
  rate_eq : t.rate = c.rate
  periodNanos_eq : t.periodNanos = c.periodNanos
  starts_eq : t.starts = c.starts n
  now_eq : t.bench.now % 2 ^ 64 = c.clock n

variable {t t' : Session} {card : Card (Recorded Simulator)} {now : Nat}

/-- The module and its control bank do not matter to the course of the card. -/
lemma Runs.congr {card' : Card (Recorded Simulator)} {served moved : Nat}
    (h : c.Runs card served moved)
    (houtside : card'.device.device.outside = card.device.device.outside)
    (hmodel : card'.model = card.model) (hcontrol : card'.control = card.control)
    (hposition : card'.position = card.position)
    (hinterrupts : card'.interrupts = card.interrupts) : c.Runs card' served moved where
  inStep := h.inStep.congr houtside hmodel hcontrol hposition hinterrupts
  started := hcontrol ▸ h.started
  enabled := hcontrol ▸ h.enabled
  rate_eq := (congrArg Control.rate hcontrol).trans h.rate_eq
  periodSize_eq := hposition ▸ h.periodSize_eq
  feed_eq := (congrArg Simulator.feed houtside).trans h.feed_eq

/-! ## Boundaries of a period -/

lemma advance_feed (c : Course) (n : Nat) :
    ((c.feed n).advance c.frameSize (c.periodSize / c.rate.speed.factor)).1.length
        = c.starts (n + 1) - c.starts n
      ∧ ((c.feed n).advance c.frameSize (c.periodSize / c.rate.speed.factor)).2
        = c.feed (n + 1) := by
  have hframeSize := c.frameSize_bounds
  have hsamples : c.samples n + c.periodSize / c.rate.speed.factor = c.samples (n + 1) :=
    (Nat.succ_mul _ _).symm
  unfold starts feed
  rw [← hsamples]
  exact Feed.advance_running (by omega) _ _

/-- The registers of a running card move ahead by a period. -/
lemma Runs.advance {b : Bench} (h : c.Runs b.card n n) :
    ∃ s : Simulator,
      b.advance = (((c.feed n).advance c.frameSize (c.periodSize / c.rate.speed.factor)).1,
          b.withRegisters s)
        ∧ c.Runs (b.withRegisters s).card n (n + 1) ∧ s.Shows (c.feed (n + 1)) := by
  have hframeSize : (c.feed n).rate.frameSize (Tco.BaseRate.ofCard b.card.rate.base).hz
      = c.frameSize := by
    rw [h.rate_eq]
    rfl
  obtain ⟨-, hlast⟩ := c.advance_feed n
  obtain ⟨s, hadvance, hstep, hfeed, hshows⟩ :=
    h.inStep.advance h.started h.enabled h.feed_eq hframeSize
  rw [h.rate_eq, h.periodSize_eq] at hadvance hfeed hshows
  rw [hlast] at hfeed hshows
  exact ⟨s, hadvance,
    { inStep := hstep
      started := h.started
      enabled := h.enabled
      rate_eq := h.rate_eq
      periodSize_eq := h.periodSize_eq
      feed_eq := hfeed }, hshows⟩

lemma period_eq {u v : Session} {list : List FrameStart} {elapsed rest : Nat}
    (hadvance : t.bench.advance = (list, u.bench)) (hu : u = { t with bench := u.bench })
    (hstarts : frameStarts u.bench.card.rate.speed.factor 0 u list = .ok (elapsed, v))
    (hrest : Word.minus v.periodNanos elapsed = .ok rest) :
    t.period = (v.bench.card.interrupt (v.bench.tick rest).now).map fun i =>
      { v with bench := { card := i.card, now := (v.bench.tick rest).now } } := by
  have htick : (v.bench.tick rest).card = v.bench.card := rfl
  unfold Session.period
  rw [hadvance]
  simp only [← hu, hstarts, hrest, bind, Except.bind, Bench.perform, Card.perform, htick]
  cases v.bench.card.interrupt (v.bench.tick rest).now <;> rfl

/-- The input hears the starts of the next period, if there are any. -/
lemma Hears.next {input input' : Ltc.Tracker} {elapsed : Nat} {list : List FrameStart}
    (h : c.Hears input n) (hfresh : input.fresh = false)
    (hstarts : c.starts n + list.length = c.starts (n + 1))
    (hclocked : input'.Clocked c.start (n * c.periodNanos + elapsed) (c.starts (n + 1)))
    (hle : elapsed ≤ c.periodNanos) (hnil : list = [] → input' = input)
    (hcons : list ≠ [] → input'.fresh = true) : c.Hears input' (n + 1) where
  clocked := hclocked.later (by rw [Nat.succ_mul]; omega)
  publishes hstill := by
    have hlist : list = [] := by
      by_contra hne
      exact absurd (hstill.symm.trans (hcons hne)) (by decide)
    rw [← hstarts, hlist, hnil hlist]
    exact h.publishes hfresh
  starts_pos hheard := by
    have hlist : list ≠ [] := by
      intro hlist
      rw [hnil hlist, hfresh] at hheard
      exact absurd hheard (by decide)
    have hpos := List.length_pos_iff.mpr hlist
    omega

/-- The boundaries of a period are noted one after another, and lead to the card which serves the
interrupt. -/
lemma At.exists_heard (h : c.At t n) (hc : c.Fits) (hn : n + 1 < 2 ^ 32) :
    ∃ elapsed v, frameStarts c.rate.speed.factor 0 { t with bench := t.bench.advance.2 }
          t.bench.advance.1 = .ok (elapsed, v)
      ∧ c.Due v.bench.card n
      ∧ t.period = (v.bench.card.interrupt (c.clock (n + 1))).map fun i =>
          { t with
            bench := { card := i.card, now := c.clock (n + 1) }
            starts := c.starts (n + 1) } := by
  obtain ⟨m, hmodule, hpending, hhears, hfresh⟩ := h.ready.module
  obtain ⟨s, hadvance, hruns, hshows⟩ := h.ready.runs.advance
  obtain ⟨hlength, -⟩ := c.advance_feed n
  generalize ((c.feed n).advance c.frameSize (c.periodSize / c.rate.speed.factor)).1 = list
    at hadvance hlength
  obtain ⟨u, hu⟩ : ∃ u : Session, u = { t with bench := t.bench.withRegisters s } := ⟨_, rfl⟩
  have hself : u.hear m m.input t.bench.now t.starts = u := by
    rw [hu]
    exact Session.hear_self hmodule
  have hnanos : n * c.periodNanos + u.periodNanos = (n + 1) * c.periodNanos := by
    rw [hu, h.periodNanos_eq, Nat.succ_mul]
  have hstarts : t.starts + list.length = c.starts (n + 1) := by
    have hmono := c.starts_mono n
    rw [h.starts_eq, hlength]
    omega
  have hclocked : m.input.Clocked c.start (n * c.periodNanos + 0) t.starts := by
    rw [h.starts_eq, Nat.add_zero]
    exact hhears.clocked
  have hnow : t.bench.now % 2 ^ 64 = (c.start + (n * c.periodNanos + 0)) % 2 ^ 64 := by
    rw [h.now_eq, Nat.add_zero, clock]
  obtain ⟨elapsed, input, now, hheard, hle, hnow', hclocked', hnil, hcons⟩ :=
    frameStarts_hear (m := m) (t := u) c.rate.speed.factor list hclocked hnow (Nat.zero_le _)
      (by rw [hnanos]; exact hc.nanos_lt hn) (by rw [hstarts]; exact hc.starts_lt hn)
  rw [hself, hstarts] at hheard
  -- The clock has stopped at the last boundary, and what is left of the period leads to its end.
  have hrest : Word.minus u.periodNanos elapsed = .ok (u.periodNanos - elapsed) :=
    Word.minus_eq_ok_iff.mpr ⟨hle, rfl⟩
  have hclock : ((u.hear m input now (c.starts (n + 1))).bench.tick
      (u.periodNanos - elapsed)).now = c.clock (n + 1) := by
    rw [Bench.now_tick hnow', clock, ← hnanos]
    congr 1
    omega
  have hrate : u.bench.card.rate = c.rate := by
    rw [hu]
    exact hruns.rate_eq
  have hstarted := hheard
  rw [← hrate] at hstarted
  have hperiod := period_eq (u := u) (by rw [hadvance, hu]) (by rw [hu]) hstarted hrest
  rw [hclock] at hperiod
  refine ⟨elapsed, u.hear m input now (c.starts (n + 1)), ?_, ?_, ?_⟩
  · rw [hadvance, ← hheard, hu]
  · rw [hstarts] at hclocked'
    rw [hu, h.periodNanos_eq] at hle
    rw [hu]
    exact {
      runs := hruns.congr rfl rfl rfl rfl rfl
      shows := hshows
      module := ⟨_, rfl, hpending, hhears.next hfresh (h.starts_eq ▸ hstarts) hclocked' hle
        hnil hcons⟩ }
  · rw [hperiod, hu]
    rfl

/-- **Step.** A period comes to the interrupt of a card whose input has noted all boundaries. -/
lemma At.exists_due (h : c.At t n) (hc : c.Fits) (hn : n + 1 < 2 ^ 32) :
    ∃ card, c.Due card n
      ∧ t.period = (card.interrupt (c.clock (n + 1))).map fun i =>
          { t with
            bench := { card := i.card, now := c.clock (n + 1) }
            starts := c.starts (n + 1) } := by
  obtain ⟨-, v, -, hdue, hperiod⟩ := h.exists_heard hc hn
  exact ⟨v.bench.card, hdue, hperiod⟩

/-! ## The interrupt -/

/-- The input publishes at an interrupt what it has heard. -/
lemma Hears.period {input : Ltc.Tracker} {d : Recorded Simulator} (h : c.Hears input n)
    (hc : c.Fits) (hmodule : d.device.hasModule = true) (hshows : d.device.Shows (c.feed n)) :
    c.Hears (input.period d (n * c.periodSize) c.rate.speed.factor).1 n
      ∧ (input.period d (n * c.periodSize) c.rate.speed.factor).1.fresh = false := by
  -- Without a boundary since the last interrupt the input stays, and so does the number of starts.
  cases hfresh : input.fresh with
  | false =>
      have hperiod : (input.period d (n * c.periodSize) c.rate.speed.factor).1 = input := by
        rw [Ltc.Tracker.period, if_neg (by rw [hfresh]; decide)]
      rw [hperiod]
      exact ⟨h, hfresh⟩
  | true =>
      have hpos := h.starts_pos hfresh
      obtain ⟨hcode, hstart, -, hread⟩ := Ltc.Tracker.period_of_shows hfresh hmodule hshows
        (n * c.periodSize) c.rate.speed.factor
      obtain ⟨timeCode, startFrame, pullFactor, fresh, hkept⟩ :=
        input.exists_period_eq d (n * c.periodSize) c.rate.speed.factor
      refine ⟨⟨h.clocked.congr (by rw [hkept]) (by rw [hkept]), fun _ => ⟨?_, ?_, ?_⟩, ?_⟩, hread⟩
      · intro hzero
        omega
      · intro _
        exact hcode
      · intro _
        rw [hstart, hc.startFrame_eq]
      · intro _
        exact hpos

namespace Due

/-- The card can serve the interrupt, as far as the numbers go which it keeps. -/
lemma sound (h : c.Due card n) (hc : c.Fits) : card.Sound where
  position := by
    have htracks := h.runs.inStep.tracks.turns_add_pointer
    have hframes := h.runs.inStep.frames_eq
    have hperiodSize := card.model.periodSize_bounds card.control.latency
    rw [← h.runs.inStep.periodSize_eq] at hperiodSize
    exact ⟨by omega, hperiodSize.1, hperiodSize.2⟩
  module m hm := by
    obtain ⟨m', hm', hpending, hhears⟩ := h.module
    obtain rfl := Option.some.inj (hm.symm.trans hm')
    refine ⟨hhears.clocked.measures, fun r hr => ?_⟩
    rw [hpending, waitingAt] at hr
    split at hr
    · exact hc.waiting r hr
    · exact nomatch hr

lemma exists_interrupt_iff (h : c.Due card n) (hc : c.Fits) (hn : n + 1 < 2 ^ 32) (now : Nat) :
    (∃ i, card.interrupt now = .ok i) ↔ ∀ r, c.waitingAt n = some r → ¬ r.Overruns now := by
  obtain ⟨m, hm, hpending, -⟩ := h.module
  have hframes : card.position.frames < 2 ^ 62 := by
    rw [h.runs.inStep.frames_eq, h.runs.periodSize_eq]
    have hle : n * c.periodSize ≤ n * 8192 := Nat.mul_le_mul_left _ hc.periodSize_le
    omega
  have hinterrupts : card.interrupts + 1 < 2 ^ 64 := by
    rw [h.runs.inStep.interrupts_eq]
    omega
  have hstatus : (CardStatus.read card.device).1.interruptPending = true := by
    rw [(Simulator.read_cardStatus card.device).1]
    exact h.runs.inStep.pending_eq.trans (decide_eq_true (Nat.succ_ne_self n).symm)
  rw [(h.sound hc).exists_interrupt_iff hframes hinterrupts, Card.Overruns]
  simp only [hstatus, hm, Option.some.injEq, exists_eq_left', hpending, true_and, not_exists,
    not_and]

/-- The registers, as the module finds them at the interrupt, show the time code which is fed. -/
lemma exists_served (h : c.Due card n) (hc : c.Fits) (hn : n + 1 < 2 ^ 32)
    {i : Interrupt (Recorded Simulator)} (hi : card.interrupt now = .ok i) {m : Tco.Module}
    (hm : card.module = some m) :
    ∃ (m' : Tco.Module) (d : Recorded Simulator), c.Runs i.card (n + 1) (n + 1)
      ∧ i.card.module = some m' ∧ m'.output.pending = none
      ∧ d.device.hasModule = true ∧ d.device.Shows (c.feed (n + 1))
      ∧ m'.input = (m.input.period d ((n + 1) * c.periodSize) c.rate.speed.factor).1 := by
  have hbound : (n + 1) * card.position.periodSize < 2 ^ 64 := by
    rw [h.runs.periodSize_eq]
    have hle : (n + 1) * c.periodSize ≤ (n + 1) * 8192 := Nat.mul_le_mul_left _ hc.periodSize_le
    omega
  obtain ⟨m', d, hstep, hcontrol, hsize, hfeed, hm', hpending, hdevice, hinput⟩ :=
    h.runs.inStep.of_interrupt hbound hm hi
  rw [h.runs.periodSize_eq, h.runs.rate_eq] at hinput
  refine ⟨m', d, ?_, hm', hpending, ?_, ?_, hinput⟩
  · exact {
      inStep := hstep
      started := hcontrol ▸ h.runs.started
      enabled := hcontrol ▸ h.runs.enabled
      rate_eq := (congrArg Control.rate hcontrol).trans h.runs.rate_eq
      periodSize_eq := hsize.trans h.runs.periodSize_eq
      feed_eq := hfeed.trans h.runs.feed_eq }
  · rw [hdevice]
    exact h.runs.inStep.hasModule
  · rw [hdevice]
    exact ⟨h.shows.timeCode_eq, h.shows.rate_eq, h.shows.dropFrame_eq, h.shows.offset_eq⟩

/-- **Interrupt.** The card is between two periods again. -/
lemma of_interrupt (h : c.Due card n) (hc : c.Fits) (hn : n + 1 < 2 ^ 32)
    {i : Interrupt (Recorded Simulator)} (hi : card.interrupt now = .ok i) :
    c.Ready i.card (n + 1) := by
  obtain ⟨m, hm, -, hhears⟩ := h.module
  obtain ⟨m', d, hruns, hm', hpending, hmodule, hshows, hinput⟩ := h.exists_served hc hn hi hm
  obtain ⟨hheard, hread⟩ := hhears.period hc hmodule hshows
  exact ⟨hruns, m', hm', hpending, hinput ▸ hheard, hinput ▸ hread⟩

end Due

/-! ## Many periods -/

/-- A period comes to its end, unless it has to schedule a request which overruns. -/
lemma At.exists_period_iff (h : c.At t n) (hc : c.Fits) (hn : n + 1 < 2 ^ 32) :
    (∃ t', t.period = .ok t')
      ↔ ∀ r, c.waitingAt n = some r → ¬ r.Overruns (c.clock (n + 1)) := by
  obtain ⟨card, hdue, hperiod⟩ := h.exists_due hc hn
  rw [hperiod, ← hdue.exists_interrupt_iff hc hn]
  constructor
  · rintro ⟨t', ht'⟩
    obtain ⟨i, hi, -⟩ := exists_of_map_eq_ok ht'
    exact ⟨i, hi⟩
  · rintro ⟨i, hi⟩
    rw [hi]
    exact ⟨_, rfl⟩

/-- **Step.** A period leads to the next number of periods. -/
lemma At.of_period (h : c.At t n) (hc : c.Fits) (hn : n + 1 < 2 ^ 32)
    (hperiod : t.period = .ok t') : c.At t' (n + 1) := by
  obtain ⟨card, hdue, heq⟩ := h.exists_due hc hn
  obtain ⟨i, hi, rfl⟩ := exists_of_map_eq_ok (heq.symm.trans hperiod)
  exact {
    ready := hdue.of_interrupt hc hn hi
    rate_eq := h.rate_eq
    periodNanos_eq := h.periodNanos_eq
    starts_eq := rfl
    now_eq := Nat.mod_mod _ _ }

lemma Ready.poll (h : c.Ready card n) : c.Ready card.poll.2 n := by
  obtain ⟨m, hm, hmodule⟩ := h.module
  unfold Card.poll
  rw [hm]
  exact ⟨h.runs.congr rfl rfl rfl rfl rfl, _, rfl, hmodule⟩

lemma At.pollAfter (h : c.At t n) (periods : Nat) : c.At (t.pollAfter periods) n := by
  unfold Session.pollAfter
  split
  · exact ⟨h.ready.poll, h.rate_eq, h.periodNanos_eq, h.starts_eq, h.now_eq⟩
  · exact h

/-- **Run.** Any number of periods leads where the course says. -/
lemma At.of_periods {done : Nat} (h : c.At t done) (hc : c.Fits) (hn : done + n < 2 ^ 32)
    (hperiods : periods done n t = .ok t') : c.At t' (done + n) := by
  induction n generalizing done t with
  | zero =>
      obtain rfl := Except.ok.inj hperiods
      exact h
  | succ n ih =>
      obtain ⟨u, hperiod, hperiods⟩ := exists_of_bind_eq_ok hperiods
      have hnext := (h.of_period hc (by omega) hperiod).pollAfter (done + 1)
      have hlast := ih hnext (by omega) hperiods
      rwa [Nat.succ_add_eq_add_succ] at hlast

/-- Only the first period can fail, where a request waits. -/
lemma At.exists_periods_iff {done : Nat} (h : c.At t done) (hc : c.Fits)
    (hn : done + n < 2 ^ 32) : (∃ t', periods done n t = .ok t')
      ↔ (0 < n → ∀ r, c.waitingAt done = some r → ¬ r.Overruns (c.clock (done + 1))) := by
  induction n generalizing done t with
  | zero => exact ⟨fun _ hpos => absurd hpos (lt_irrefl 0), fun _ => ⟨t, rfl⟩⟩
  | succ n ih =>
      -- Nothing waits after a period, so that all later ones come to their end.
      have hlater : ∀ u, t.period = .ok u →
          ∃ t', periods (done + 1) n (u.pollAfter (done + 1)) = .ok t' := by
        intro u hperiod
        have hnext := (h.of_period hc (by omega) hperiod).pollAfter (done + 1)
        refine (ih hnext (by omega)).mpr fun _ r hr => ?_
        rw [waitingAt, if_neg (Nat.succ_ne_zero done)] at hr
        exact nomatch hr
      constructor
      · rintro ⟨t', hperiods⟩ -
        obtain ⟨u, hperiod, -⟩ := exists_of_bind_eq_ok hperiods
        exact (h.exists_period_iff hc (by omega)).mp ⟨u, hperiod⟩
      · intro hwaiting
        obtain ⟨u, hperiod⟩ :=
          (h.exists_period_iff hc (by omega)).mpr (hwaiting (Nat.succ_pos n))
        obtain ⟨t', hrest⟩ := hlater u hperiod
        exact ⟨t', by rw [periods, hperiod]; exact hrest⟩

end Course

end Session

end TimecodeCard
