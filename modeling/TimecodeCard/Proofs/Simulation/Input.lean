import Mathlib.Tactic
import TimecodeCard.Proofs.Simulation.Course
import TimecodeCard.Proofs.Simulation.SettingUp

/-!
# Time code input over a session

A session which has a time code at its input opens at the start of the course of its settings
(`Session.exists_open?`), and the course leads from there to any number of periods.

The main result `Session.input_after_periods` says this of the settings alone. The published time
code and its start are exact after any number of periods: positions do not drift, although the
pointer wraps around, the offset in the status has 14 bits and the boundaries arrive by a clock
which is rounded to nanoseconds.
-/

namespace TimecodeCard

/-! ## Opening -/

namespace Session.Course

variable {c : Course} {card : Card (Recorded Simulator)}

lemma feed_zero (c : Course) :
    c.feed 0 = ⟨c.timeCode, c.format.rate, c.format.dropFrame, 0⟩ := by
  rw [feed, samples, Nat.zero_mul, Feed.running, Nat.zero_div, Nat.zero_mod]
  rfl

lemma starts_zero (c : Course) : c.starts 0 = 0 := by
  rw [starts, samples, Nat.zero_mul, Nat.zero_div]

lemma hears_default (c : Course) : c.Hears {} 0 where
  clocked := by
    rw [starts_zero, Nat.zero_mul]
    exact Ltc.Tracker.clocked_default c.start
  publishes _ := by
    rw [starts_zero]
    exact ⟨fun _ => rfl, fun hpos => absurd hpos (lt_irrefl 0),
      fun hpos => absurd hpos (lt_irrefl 0)⟩
  starts_pos hfresh := nomatch hfresh

lemma runs_start (hrest : card.AtRest) (hrate : card.rate = c.rate)
    (hsize : card.position.periodSize = c.periodSize)
    (hfeed : card.device.device.feed = some (c.feed 0)) : c.Runs card.start 0 0 where
  inStep := hrest.inStep.writeControl rfl
  started := rfl
  enabled := rfl
  rate_eq := hrate
  periodSize_eq := hsize
  feed_eq := hfeed

end Session.Course

/-- Whether the first interrupt of a session has to schedule a request which overruns. -/
def Settings.Overruns (s : Settings) (now : Nat) : Prop :=
  ∃ r, s.request = some r ∧ ¬ r.timeCode.IsAbsent ∧ r.Overruns now

/-- The course of a session of the settings, which have the time code for its input. -/
def Settings.course (s : Settings) (now : Nat) (rate : ClockRate) (timeCode : TimeCode) :
    Session.Course where
  start := now
  rate
  periodSize := s.periodSize
  format := s.format
  timeCode
  waiting := s.request.filter fun r => ¬ r.timeCode.IsAbsent

namespace Session

variable {s : Settings} {latency : Nat} {rate : ClockRate} {timeCode : TimeCode}

lemma exists_open? (hmodel : s.model ≠ .madiFace) (hmodule : s.hasModule = true)
    (hrate : ClockRate.ofHz? s.rate = some rate)
    (hlatency : s.model.latencyCode? s.periodSize = some latency)
    (hinput : s.timeCodeIn = some timeCode) (now : Nat) :
    ∃ t, open? s now = .ok t ∧ (s.course now rate timeCode).At t 0 := by
  obtain ⟨card, hprepare, hrest, hcardRate, hsize, hfeed⟩ :=
    exists_prepare hmodel hmodule hrate hlatency hinput now
  obtain ⟨m, hm, hidle, hout⟩ := hrest.idle
  obtain ⟨m', hask, hinput', hpending⟩ := exists_ask hm hout s.request
  have hruns := Course.runs_start (c := s.course now rate timeCode) hrest hcardRate hsize
    (hfeed.trans (congrArg some (s.course now rate timeCode).feed_zero.symm))
  have hheard := (s.course now rate timeCode).hears_default
  rw [← hidle, ← hinput'] at hheard
  have hopen : open? s now = .ok {
      bench := { card := Card.start { card with module := some m' }, now }
      rate
      periodNanos := s.periodSize * Ltc.nanosPerSecond / rate.hz } := by
    rw [open?, hprepare]
    simp only [bind, Except.bind, begin, hask, Except.map]
  exact ⟨_, hopen,
    { ready :=
        { runs := hruns.congr rfl rfl rfl rfl rfl
          module := ⟨m', rfl, hpending, hheard, by rw [hinput', hidle]⟩ }
      rate_eq := rfl
      periodNanos_eq := rfl
      starts_eq := (s.course now rate timeCode).starts_zero.symm
      now_eq := by
        rw [Course.clock, Nat.zero_mul, Nat.add_zero]
        rfl }⟩

lemma course_fits (hlatency : s.model.latencyCode? s.periodSize = some latency)
    (hrequest : ∀ r, s.request = some r → r.InRange) (now : Nat) (rate : ClockRate)
    (timeCode : TimeCode) : (s.course now rate timeCode).Fits := by
  have hsize := CardModel.periodSize_of_latencyCode? hlatency
  refine ⟨?_, ?_, fun r hr => ?_⟩
  · show 32 ∣ s.periodSize
    rw [← hsize]
    exact s.model.dvd_periodSize latency
  · show s.periodSize ≤ 8192
    rw [← hsize]
    exact (s.model.periodSize_bounds latency).2
  · exact hrequest r (Option.filter_eq_some_iff.mp hr).1

lemma overruns_iff (s : Settings) (now : Nat) (rate : ClockRate) (timeCode : TimeCode)
    (nanos : Nat) : s.Overruns nanos
      ↔ ∃ r, (s.course now rate timeCode).waitingAt 0 = some r ∧ r.Overruns nanos := by
  show _ ↔ ∃ r, s.request.filter (fun r => ¬ r.timeCode.IsAbsent) = some r ∧ _
  simp only [Settings.Overruns, Option.filter_eq_some_iff, decide_eq_true_eq, and_assoc]

/-- A session opened from the settings comes through its periods, unless its first interrupt has to
schedule a request which overruns. -/
lemma exists_periods_iff_of_course {t : Session} {now n : Nat}
    (hat : (s.course now rate timeCode).At t 0) (hc : (s.course now rate timeCode).Fits)
    (hn : n < 2 ^ 32) : (∃ t', periods 0 n t = .ok t')
      ↔ n = 0 ∨ ¬ s.Overruns ((now + t.periodNanos) % 2 ^ 64) := by
  have hclock : (s.course now rate timeCode).clock (0 + 1) = (now + t.periodNanos) % 2 ^ 64 := by
    rw [Course.clock, hat.periodNanos_eq, Nat.zero_add, Nat.one_mul]
    rfl
  rw [hat.exists_periods_iff hc (by omega), hclock, overruns_iff s now rate timeCode,
    Nat.pos_iff_ne_zero, imp_iff_or_not, or_comm, not_not, not_exists]
  simp only [not_and]

/-! ## Main result -/

/-- **Input over a session.** A session with a time code module, on any model but MADIface, opens
and comes through any number of periods which a word of 32 bits holds, unless its first interrupt
has to schedule a request which overruns. Each period is an interrupt, and the absolute frame is
that of all periods. Of the time code frames which have started by then, the last one is published:
the time code at the input goes on by one more than their number, and the start is so many time
code frames after the start of the session. -/
theorem input_after_periods (hmodel : s.model ≠ .madiFace) (hmodule : s.hasModule = true)
    (hrate : ClockRate.ofHz? s.rate = some rate)
    (hlatency : s.model.latencyCode? s.periodSize = some latency)
    (hinput : s.timeCodeIn = some timeCode) (hrequest : ∀ r, s.request = some r → r.InRange)
    (now : Nat) :
    ∃ t, open? s now = .ok t ∧ ∀ n < 2 ^ 32,
      ((∃ t', periods 0 n t = .ok t')
          ↔ n = 0 ∨ ¬ s.Overruns ((now + t.periodNanos) % 2 ^ 64))
        ∧ ∀ t', periods 0 n t = .ok t' →
          run { s with periods := n } now = .finished t'.finish.lines
            ∧ t'.bench.card.interrupts = n
            ∧ t'.bench.card.position.frames = n * s.periodSize
            ∧ ∃ m, t'.bench.card.module = some m
              ∧ m.input.Publishes s.format.counting timeCode
                (rate.speed.factor * s.format.rate.frameSize (Tco.BaseRate.ofCard rate.base).hz)
                (n * (s.periodSize / rate.speed.factor)
                  / s.format.rate.frameSize (Tco.BaseRate.ofCard rate.base).hz) := by
  have hc := course_fits hlatency hrequest now rate timeCode
  obtain ⟨t, hopen, hat⟩ := exists_open? hmodel hmodule hrate hlatency hinput now
  refine ⟨t, hopen, fun n hn => ⟨exists_periods_iff_of_course hat hc hn, fun t' hperiods => ?_⟩⟩
  · have hlast := hat.of_periods hc (by omega) hperiods
    rw [Nat.zero_add] at hlast
    obtain ⟨m, hm, -, hhears, hfresh⟩ := hlast.ready.module
    have hopen' : open? { s with periods := n } now = .ok t := hopen
    refine ⟨?_, hlast.ready.runs.inStep.interrupts_eq, ?_, m, hm, hhears.publishes hfresh⟩
    · rw [run, hopen']
      simp only [hperiods]
    · rw [hlast.ready.runs.inStep.frames_eq, hlast.ready.runs.periodSize_eq]
      rfl

/-- Forty periods at double speed, in which 21 time code frames start. -/
theorem input_after_periods_double_speed :
    ∃ t t', open? {
        rate := 96000
        periodSize := 2048
        timeCodeIn := some (.ofFields ⟨10, 0, 0, 0⟩)
        request := some ⟨.ofFields ⟨1, 0, 0, 0⟩, -1⟩ } 0 = .ok t
      ∧ periods 0 40 t = .ok t' ∧ t'.bench.card.interrupts = 40
      ∧ t'.bench.card.position.frames = 81920
      ∧ ∃ m, t'.bench.card.module = some m
        ∧ m.input.timeCode = .ofFields ⟨10, 0, 0, 22⟩ ∧ m.input.startFrame = 80640 := by
  obtain ⟨t, hopen, hcourse⟩ := input_after_periods (s := {
      rate := 96000
      periodSize := 2048
      timeCodeIn := some (.ofFields ⟨10, 0, 0, 0⟩)
      request := some ⟨.ofFields ⟨1, 0, 0, 0⟩, -1⟩ })
    (by decide) rfl (show _ = some ⟨.hz48000, .double⟩ from rfl) (show _ = some 5 from rfl) rfl
    (fun r hr => by obtain rfl := Option.some.inj hr; exact ⟨by decide, by decide⟩) 0
  obtain ⟨hcomplete, hresult⟩ := hcourse 40 (by decide)
  obtain ⟨t', hperiods⟩ := hcomplete.mpr <| .inr <| by
    rintro ⟨r, hr, -, hclock, -⟩
    obtain rfl := Option.some.inj hr
    exact absurd hclock (by decide)
  obtain ⟨-, hinterrupts, hframes, m, hm, hpublishes⟩ := hresult t' hperiods
  refine ⟨t, t', hopen, hperiods, hinterrupts, hframes, m, hm, ?_, ?_⟩
  · exact (hpublishes.timeCode_eq (by decide)).trans (by decide +kernel)
  · exact (hpublishes.startFrame_eq (by decide)).trans (by decide)

end Session

end TimecodeCard
