import Mathlib.Tactic
import TimecodeCard.Proofs.Simulation.Boundaries

/-!
# The clock of a session keeps its periods

Within a period the clock of a session moves in pieces: to each start of a time code frame, and from
the last one to the end of the period. Each piece is a difference of unsigned words. The starts come
from the registers as samples and are converted to nanoseconds apart from the length of the period,
so that nothing in the conversion keeps them in order, or within the period. What does is the way in
which an arrival is taken: not before the one ahead of it, and never after the end.

`Bench.deliver` is a period without any of these differences: messages are handled at given times
after its start. `Session.Punctual` says of a list of such times and messages that the period is
exactly that, in order and followed by the interrupt at the end, and `Session.exists_punctual` finds
the list for every session at all, whatever its registers and its rate are. So no difference is ever
negative, and the only faults of a period are those of the card.

The main result, `Session.clock_keeps_periods`, adds what it comes to over many periods.
-/

namespace TimecodeCard

/-! ## Messages at given times -/

namespace Bench

variable {b b' : Bench} {op : Operation} {report : Report}

/-- The bench after the messages have been handled, each so long after the start of the clock. -/
def deliver (start : Nat) : List (Nat × MidiMessage) → Bench → Except Fault Bench
  | [], b => .ok b
  | (elapsed, message) :: rest, b => do
    let (b, _) ← (b.atTime ((start + elapsed) % 2 ^ 64)).perform (.midi message.bytes)
    deliver start rest b

lemma now_perform (h : b.perform op = .ok (b', report)) : b'.now = b.now := by
  obtain ⟨⟨card, report'⟩, -, hlast⟩ := exists_of_bind_eq_ok h
  obtain ⟨rfl, -⟩ := Prod.mk.inj (Except.ok.inj hlast)
  rfl

end Bench

namespace Session

variable {t t' : Session} {elapsed : Nat}

/-! ## Starts of time code frames -/

/-- **Run.** The starts of time code frames are messages in order, at times which depend on the list
of starts alone. -/
lemma exists_deliver_eq (t : Session) (factor start : Nat) (list : List FrameStart) (starts : Nat)
    (helapsed : elapsed ≤ t.periodNanos) :
    ∃ (schedule : List (Nat × MidiMessage)) (last : Nat),
      schedule.map Prod.snd = list.mapIdx (fun i fs => quarterFrame (starts + i) fs.timeCode)
        ∧ (elapsed :: (schedule.map Prod.fst ++ [t.periodNanos])).IsChain (· ≤ ·)
        ∧ last ≤ t.periodNanos
        ∧ ∀ b : Bench, b.now % 2 ^ 64 = (start + elapsed) % 2 ^ 64 →
          frameStarts factor elapsed { t with bench := b, starts } list
              = (b.deliver start schedule).map
                (fun b => (last, { t with bench := b, starts := starts + list.length }))
            ∧ ∀ b', b.deliver start schedule = .ok b' →
              b'.now % 2 ^ 64 = (start + last) % 2 ^ 64 := by
  induction list generalizing elapsed starts with
  | nil =>
      refine ⟨[], elapsed, rfl, List.isChain_pair.mpr helapsed, helapsed, fun b hnow => ⟨rfl, ?_⟩⟩
      rintro b' hb'
      obtain rfl := Except.ok.inj hb'
      exact hnow
  | cons fs rest ih =>
      obtain ⟨arrival, harrival, hle, hle'⟩ := t.exists_arrival fs factor helapsed
      obtain ⟨schedule, last, hmessages, hchain, hlast, hrest⟩ := ih (starts + 1) hle'
      refine ⟨(arrival, quarterFrame starts fs.timeCode) :: schedule, last, ?_,
        List.isChain_cons_cons.mpr ⟨hle, hchain⟩, hlast, fun b hnow => ?_⟩
      · rw [List.map_cons, hmessages, List.mapIdx_cons]
        simp only [Nat.add_zero, Nat.add_assoc, Nat.add_comm 1]
      · have hstart := frameStart_atTime (t := { t with bench := b, starts }) harrival hnow
        have hcount : starts + 1 + rest.length = starts + (fs :: rest).length := by
          rw [List.length_cons]
          omega
        rw [frameStarts, hstart, Bench.deliver]
        cases hperform : (b.atTime ((start + arrival) % 2 ^ 64)).perform
            (.midi (quarterFrame starts fs.timeCode).bytes) with
        | error fault =>
            refine ⟨rfl, fun b' hb' => ?_⟩
            cases hb'
        | ok r =>
            obtain ⟨b₁, report⟩ := r
            have hclock : b₁.now % 2 ^ 64 = (start + arrival) % 2 ^ 64 := by
              rw [Bench.now_perform hperform]
              exact Nat.mod_mod _ _
            rw [← hcount]
            exact hrest b₁ hclock

/-! ## One period -/

/-- Whether a period of the session is the delivery of the messages, each so long after its start, and
then the interrupt at its end. -/
structure Punctual (t : Session) (schedule : List (Nat × MidiMessage)) : Prop where
  /-- There is one message for each time code frame which starts, in their order. -/
  messages_eq : schedule.map Prod.snd
    = t.bench.advance.1.mapIdx fun i fs => quarterFrame (t.starts + i) fs.timeCode
  /-- Each message is at the boundary of a time code frame. -/
  isBoundary : ∀ d ∈ schedule, Card.isBoundary d.2.bytes = true
  /-- No message comes before the one ahead of it, and none after the interrupt. -/
  ordered : (schedule.map Prod.fst ++ [t.periodNanos]).Pairwise (· ≤ ·)
  /-- Unless the clock wraps around within the period, this is so by the clock as well. -/
  clock_ordered : t.bench.now + t.periodNanos < 2 ^ 64 →
    ((schedule.map Prod.fst ++ [t.periodNanos]).map fun e => (t.bench.now + e) % 2 ^ 64).Pairwise
      (· ≤ ·)
  /-- The messages are handled and then the interrupt, each at its time, and that is all. -/
  period_eq : t.period = do
    let b ← t.bench.advance.2.deliver t.bench.now schedule
    let (bench, _) ← (b.atTime ((t.bench.now + t.periodNanos) % 2 ^ 64)).perform .interrupt
    return { t with bench, starts := t.starts + schedule.length }

lemma pairwise_clock {times : List Nat} {now last : Nat} (h : (times ++ [last]).Pairwise (· ≤ ·))
    (hfit : now + last < 2 ^ 64) :
    ((times ++ [last]).map fun e => (now + e) % 2 ^ 64).Pairwise (· ≤ ·) := by
  have hle : ∀ e ∈ times ++ [last], e ≤ last := by
    intro e he
    rcases List.mem_append.mp he with hbefore | hlast
    · exact (List.pairwise_append.mp h).2.2 e hbefore last (List.mem_singleton_self _)
    · exact (List.mem_singleton.mp hlast).le
  refine List.pairwise_map.mpr (h.imp_of_mem fun {a b} ha hb hab => ?_)
  have hfirst := hle a ha
  have hsecond := hle b hb
  rw [Nat.mod_eq_of_lt (by omega), Nat.mod_eq_of_lt (by omega)]
  omega

lemma exists_punctual (t : Session) : ∃ schedule, t.Punctual schedule := by
  obtain ⟨schedule, last, hmessages, hchain, hlast, hdeliver⟩ :=
    exists_deliver_eq t t.bench.advance.2.card.rate.speed.factor t.bench.now t.bench.advance.1
      t.starts (Nat.zero_le _)
  obtain ⟨hstarts, hclock⟩ := hdeliver t.bench.advance.2 rfl
  have hlength : schedule.length = t.bench.advance.1.length := by
    simpa only [List.length_map, List.length_mapIdx] using congrArg List.length hmessages
  have hordered := (List.pairwise_cons.mp (List.isChain_iff_pairwise.mp hchain)).2
  refine ⟨schedule, hmessages, fun d hd => ?_, hordered, pairwise_clock hordered, ?_⟩
  · have hmem := List.mem_map_of_mem (f := Prod.snd) hd
    rw [hmessages, List.mem_mapIdx] at hmem
    obtain ⟨i, hi, heq⟩ := hmem
    rw [← heq]
    exact isBoundary_quarterFrame _ _
  · show (frameStarts t.bench.advance.2.card.rate.speed.factor 0
      { t with bench := t.bench.advance.2 } t.bench.advance.1).bind _ = _
    rw [hlength, hstarts]
    cases hbench : t.bench.advance.2.deliver t.bench.now schedule with
    | error fault => rfl
    | ok b =>
        have htick := Bench.tick_eq_atTime (hclock b hbench) hlast
        simp only [Except.map, Except.bind, bind, Word.minus_eq_ok_iff.mpr ⟨hlast, rfl⟩, htick]

lemma now_period (h : t.period = .ok t') :
    t'.bench.now = (t.bench.now + t.periodNanos) % 2 ^ 64 ∧ t'.periodNanos = t.periodNanos := by
  obtain ⟨schedule, hpunctual⟩ := t.exists_punctual
  rw [hpunctual.period_eq] at h
  obtain ⟨b, -, h⟩ := exists_of_bind_eq_ok h
  obtain ⟨⟨bench, report⟩, hperform, h⟩ := exists_of_bind_eq_ok h
  obtain rfl := Except.ok.inj h
  exact ⟨Bench.now_perform hperform, rfl⟩

/-! ## Many periods -/

lemma now_pollAfter (t : Session) (periods : Nat) :
    (t.pollAfter periods).bench.now = t.bench.now
      ∧ (t.pollAfter periods).periodNanos = t.periodNanos := by
  unfold pollAfter
  split <;> exact ⟨rfl, rfl⟩

/-- **Run.** So many periods move the clock by so many lengths of the period. -/
lemma now_periods {done n : Nat} (hclock : t.bench.now < 2 ^ 64) (h : periods done n t = .ok t') :
    t'.bench.now = (t.bench.now + n * t.periodNanos) % 2 ^ 64 := by
  induction n generalizing done t with
  | zero =>
      obtain rfl := Except.ok.inj h
      rw [Nat.zero_mul, Nat.add_zero, Nat.mod_eq_of_lt hclock]
  | succ n ih =>
      obtain ⟨u, hperiod, hrest⟩ := exists_of_bind_eq_ok h
      obtain ⟨hnow, hnanos⟩ := now_period hperiod
      obtain ⟨hpollNow, hpollNanos⟩ := u.now_pollAfter (done + 1)
      have hlast := ih (by rw [hpollNow, hnow]; exact Nat.mod_lt _ (by decide)) hrest
      rw [hlast, hpollNow, hpollNanos, hnow, hnanos, Nat.mod_add_mod, Nat.add_assoc, Nat.succ_mul,
        Nat.add_comm t.periodNanos]

/-! ## From the settings -/

variable {s : Settings} {b b' : Bench} {now : Nat}

lemma now_prepareModule (h : prepareModule s b = .ok b') : b'.now = b.now := by
  unfold prepareModule at h
  split at h
  · obtain ⟨card, -, h⟩ := exists_of_bind_eq_ok h
    obtain rfl := Except.ok.inj h
    rfl
  · obtain rfl := Except.ok.inj h
    rfl

/-- A session opens at the start of the clock, with periods as long as its settings say. -/
lemma clock_open? (h : open? s now = .ok t) :
    t.bench.now = now ∧ t.periodNanos = s.periodSize * Ltc.nanosPerSecond / s.rate := by
  obtain ⟨u, hprepare, hbegin⟩ := exists_of_bind_eq_ok h
  obtain ⟨card, -, rfl⟩ := exists_of_map_eq_ok hbegin
  unfold prepare at hprepare
  split at hprepare
  · exact nomatch hprepare
  · next rate hrate =>
      have hhz : rate.hz = s.rate := by
        simpa using List.find?_some hrate
      obtain ⟨_, -, hprepare⟩ := exists_of_bind_eq_ok hprepare
      obtain ⟨_, -, hprepare⟩ := exists_of_bind_eq_ok hprepare
      obtain ⟨bench, hmodule, hprepare⟩ := exists_of_bind_eq_ok hprepare
      obtain rfl := Except.ok.inj hprepare
      rw [← hhz]
      exact ⟨now_prepareModule hmodule, rfl⟩

/-! ## Main result -/

/-- **The clock keeps its periods.** Every session is punctual: in a period, the messages for the time
code frames which start are handled in order, all of them at boundaries and none after the interrupt,
and nothing else can stop the period. It moves the clock, a word of 64 bits, by its length, and any
number of periods moves it by so many lengths. From the settings on, this is the start of the clock
and so many periods as they say, as long as a word holds it. -/
theorem clock_keeps_periods :
    (∀ t : Session, ∃ schedule, t.Punctual schedule)
      ∧ (∀ t t' : Session, t.period = .ok t' →
        t'.bench.now = (t.bench.now + t.periodNanos) % 2 ^ 64)
      ∧ (∀ (t t' : Session) (done n : Nat), t.bench.now < 2 ^ 64 → periods done n t = .ok t' →
        t'.bench.now = (t.bench.now + n * t.periodNanos) % 2 ^ 64)
      ∧ ∀ (s : Settings) (t t' : Session) (now n : Nat), open? s now = .ok t →
        periods 0 n t = .ok t' →
          now + n * (s.periodSize * Ltc.nanosPerSecond / s.rate) < 2 ^ 64 →
            t'.bench.now = now + n * (s.periodSize * Ltc.nanosPerSecond / s.rate) := by
  refine ⟨exists_punctual, fun t t' h => (now_period h).1, fun t t' done n => now_periods, ?_⟩
  intro s t t' now n hopen hperiods hfit
  obtain ⟨hnow, hnanos⟩ := clock_open? hopen
  have hlast := now_periods (by omega) hperiods
  rw [hlast, hnow, hnanos, Nat.mod_eq_of_lt hfit]

/-- Three periods whose length is rounded down, with five time code frames starting in the first. -/
theorem clock_keeps_periods_several_starts :
    ∃ t t', open? {
        model := .madi
        rate := 44100
        periodSize := 8192
        format := .fps30Drop
        timeCodeIn := some (.ofFields ⟨0, 0, 59, 25⟩) } 1000 = .ok t
      ∧ t.bench.advance.1.length = 5 ∧ periods 0 3 t = .ok t'
      ∧ t'.bench.now = 1000 + 3 * 185759637 := by
  obtain ⟨t, hopen, hcourse⟩ : ∃ t, open? {
        model := .madi
        rate := 44100
        periodSize := 8192
        format := .fps30Drop
        timeCodeIn := some (.ofFields ⟨0, 0, 59, 25⟩) } 1000 = .ok t
      ∧ (t.bench.advance.1.length, (periods 0 3 t).toBool) = (5, true) :=
    exists_of_map_eq_ok (by decide +kernel)
  obtain ⟨hstarts, hcomplete⟩ := Prod.mk.inj hcourse
  cases hperiods : periods 0 3 t with
  | error fault =>
      rw [hperiods] at hcomplete
      exact nomatch hcomplete
  | ok t' =>
      exact ⟨t, t', hopen, hstarts, hperiods,
        clock_keeps_periods.2.2.2 _ t t' 1000 3 hopen hperiods (by decide)⟩

end Session

end TimecodeCard
