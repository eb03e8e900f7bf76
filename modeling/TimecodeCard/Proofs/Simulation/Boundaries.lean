import Mathlib.Tactic
import TimecodeCard.Simulation.Session
import TimecodeCard.Proofs.Card.Effects
import TimecodeCard.Proofs.Ltc.Durations

/-!
# Boundaries within a period of a session

The clock of a session stops at each start of a time code frame, where a message arrives, and it
never goes beyond the end of the period. `Ltc.Tracker.Clocked` says that the boundaries which a
tracker has noted came by such a clock, so that the next one is in time although the clock may
wrap around. Then all frames of a period are noted (`Session.frameStarts_hear`), and the module's
input, the clock and the number of frames are all that changes (`Session.hear`).
-/

namespace TimecodeCard

/-! ## Boundaries by the clock -/

namespace Ltc.Tracker

/-- Whether boundaries arrived while the clock went on from its start by so many nanoseconds. -/
structure Clocked (start elapsed count : Nat) (t : Tracker) : Prop where
  measures : ∃ durations, t.Measures durations
  count_le : t.window.count ≤ count
  arrived : ∀ before, t.lastArrival = some before → ∃ e ≤ elapsed, before = (start + e) % 2 ^ 64

variable {start elapsed count : Nat} {t t' : Tracker}

lemma clocked_default (start : Nat) : Clocked start 0 0 {} where
  measures := ⟨[], Window.holds_nil, fun _ h => nomatch h⟩
  count_le := le_rfl
  arrived _ h := nomatch h

lemma Clocked.congr (h : t.Clocked start elapsed count) (hwindow : t'.window = t.window)
    (harrival : t'.lastArrival = t.lastArrival) : t'.Clocked start elapsed count := by
  obtain ⟨durations, hholds, hbound⟩ := h.measures
  exact ⟨⟨durations, hwindow ▸ hholds, hbound⟩, hwindow ▸ h.count_le, harrival ▸ h.arrived⟩

lemma Clocked.later (h : t.Clocked start elapsed count) {elapsed' : Nat}
    (hle : elapsed ≤ elapsed') : t.Clocked start elapsed' count where
  measures := h.measures
  count_le := h.count_le
  arrived before hbefore := by
    obtain ⟨e, he, heq⟩ := h.arrived before hbefore
    exact ⟨e, he.trans hle, heq⟩

/-- A clock which wraps around seems to go backward, which is in time as well. -/
lemma Clocked.inTime (h : t.Clocked start elapsed count) (helapsed : elapsed < maxDuration) :
    t.InTime ((start + elapsed) % 2 ^ 64) := by
  intro before hbefore
  obtain ⟨e, he, rfl⟩ := h.arrived before hbefore
  have hsplit : (start + elapsed) % 2 ^ 64 = ((start + e) % 2 ^ 64 + (elapsed - e)) % 2 ^ 64 := by
    rw [Nat.mod_add_mod]
    congr 1
    omega
  have hle := Nat.mod_le ((start + e) % 2 ^ 64 + (elapsed - e)) (2 ^ 64)
  rw [hsplit]
  omega

/-- **Step.** A boundary is noted. -/
lemma Clocked.boundary (h : t.Clocked start elapsed count) (helapsed : elapsed < maxDuration)
    (hcount : count + 1 < 2 ^ 64) :
    ∃ t', t.boundary ((start + elapsed) % 2 ^ 64) = .ok t' ∧ t'.Clocked start elapsed (count + 1)
      ∧ t'.fresh = true := by
  obtain ⟨durations, hmeasures⟩ := h.measures
  obtain ⟨t', hboundary, hmeasures'⟩ := hmeasures.boundary (h.inTime helapsed)
    (lt_of_le_of_lt (Nat.succ_le_succ h.count_le) hcount)
  obtain ⟨window, -, rfl⟩ := exists_of_map_eq_ok hboundary
  refine ⟨_, hboundary, ⟨⟨_, hmeasures'⟩, ?_, ?_⟩, rfl⟩
  · have hcount' := hmeasures'.holds.count_eq
    have hcount := hmeasures.holds.count_eq
    have hle := h.count_le
    rw [hcount']
    unfold durationsAt
    split
    · omega
    · rw [List.length_cons]
      omega
  · rintro before hbefore
    obtain rfl := Option.some.inj hbefore
    exact ⟨elapsed, le_rfl, rfl⟩

end Ltc.Tracker

/-! ## Messages -/

lemma Session.isBoundary_quarterFrame (starts : Nat) (t : TimeCode) :
    Card.isBoundary (Session.quarterFrame starts t).bytes = true := by
  have hbytes : ∀ piece ∈ [0, 4], ∀ value < 16,
      Card.isBoundary (MidiMessage.quarterFrame piece value).bytes = true := by
    decide
  unfold Session.quarterFrame
  split
  · exact hbytes 0 (by decide) _ (Nat.mod_lt _ (by decide))
  · exact hbytes 4 (by decide) _ (Nat.mod_lt _ (by decide))

lemma Bench.perform_boundary {b : Bench} {m : Tco.Module} {bytes : List UInt8}
    {input : Ltc.Tracker} (hmodule : b.card.module = some m)
    (hbytes : Card.isBoundary bytes = true) (hboundary : m.input.boundary b.now = .ok input) :
    b.perform (.midi bytes)
      = .ok ({ b with card := { b.card with module := some { m with input } } },
        { answer := .flag true }) := by
  have hmidi : b.card.midi bytes b.now
      = .ok (true, { b.card with module := some { m with input } }) := by
    rw [Card.midi, if_pos hbytes]
    simp only [hmodule, Tco.Module.boundary, hboundary, Except.map]
  rw [Bench.perform, Card.perform, hmidi]
  rfl

lemma Bench.exists_of_perform_boundary {b b' : Bench} {m : Tco.Module} {bytes : List UInt8}
    {report : Report} (hmodule : b.card.module = some m)
    (hbytes : Card.isBoundary bytes = true) (h : b.perform (.midi bytes) = .ok (b', report)) :
    ∃ input, m.input.boundary b.now = .ok input
      ∧ b' = { b with card := { b.card with module := some { m with input } } } := by
  obtain ⟨⟨card, report'⟩, hperform, hlast⟩ := exists_of_bind_eq_ok h
  obtain ⟨rfl, -⟩ := Prod.mk.inj (Except.ok.inj hlast)
  cases Card.perform_effect hperform with
  | refuse hrefused => exact nomatch hrefused
  | pass hnone => exact nomatch hmodule.symm.trans (hnone hbytes)
  | hear _ hsome hboundary =>
      obtain rfl := Option.some.inj (hmodule.symm.trans hsome)
      obtain ⟨input, hinput, rfl⟩ := exists_of_map_eq_ok hboundary
      exact ⟨input, hinput, rfl⟩

lemma Bench.now_tick {b : Bench} {time nanos : Nat} (hnow : b.now % 2 ^ 64 = time % 2 ^ 64) :
    (b.tick nanos).now = (time + nanos) % 2 ^ 64 := by
  show (b.now + nanos) % 2 ^ 64 = _
  rw [← Nat.mod_add_mod, hnow, Nat.mod_add_mod]

/-- The bench at the time of the clock. -/
def Bench.atTime (b : Bench) (now : Nat) : Bench :=
  { b with now }

/-- The clock moves on to a later time. -/
lemma Bench.tick_eq_atTime {b : Bench} {start before after : Nat}
    (hnow : b.now % 2 ^ 64 = (start + before) % 2 ^ 64) (hle : before ≤ after) :
    b.tick (after - before) = b.atTime ((start + after) % 2 ^ 64) := by
  have hclock : (b.tick (after - before)).now = (start + after) % 2 ^ 64 := by
    rw [now_tick hnow, Nat.add_assoc, Nat.add_sub_cancel' hle]
  rw [atTime, ← hclock]
  rfl

namespace Session

/-- The session with another state of the input of its module, at another time of the clock. -/
def hear (t : Session) (m : Tco.Module) (input : Ltc.Tracker) (now starts : Nat) : Session :=
  { t with
    bench := { card := { t.bench.card with module := some { m with input } }, now }
    starts }

variable {t : Session} {m : Tco.Module} {input : Ltc.Tracker}
  {factor start before elapsed now starts : Nat}

lemma hear_self (hmodule : t.bench.card.module = some m) :
    t.hear m m.input t.bench.now t.starts = t := by
  obtain ⟨⟨card, now⟩, rate, periodNanos, starts⟩ := t
  rw [hear, ← hmodule]

lemma exists_arrival (t : Session) (fs : FrameStart) (factor : Nat)
    (helapsed : elapsed ≤ t.periodNanos) :
    ∃ arrival, max (t.periodNanos
        - fs.samples * Ltc.nanosPerSecond * factor / t.rate.hz) elapsed = arrival
      ∧ elapsed ≤ arrival ∧ arrival ≤ t.periodNanos :=
  ⟨_, rfl, le_max_right _ _, max_le (Nat.sub_le _ _) helapsed⟩

/-- The start of a time code frame moves the clock to where the frame arrives, and then the message
is handled. -/
lemma frameStart_eq {fs : FrameStart} {arrival : Nat}
    (harrival : max (t.periodNanos
      - fs.samples * Ltc.nanosPerSecond * factor / t.rate.hz) elapsed = arrival) :
    t.frameStart factor elapsed fs = (Word.minus arrival elapsed).bind fun nanos =>
      ((t.bench.tick nanos).perform (.midi (quarterFrame t.starts fs.timeCode).bytes)).bind
        fun r => .ok (arrival, { t with bench := r.1, starts := t.starts + 1 }) := by
  rw [← harrival]
  rfl

lemma frameStart_atTime {fs : FrameStart} {arrival : Nat}
    (harrival : max (t.periodNanos
      - fs.samples * Ltc.nanosPerSecond * factor / t.rate.hz) elapsed = arrival)
    (hnow : t.bench.now % 2 ^ 64 = (start + elapsed) % 2 ^ 64) :
    t.frameStart factor elapsed fs
      = ((t.bench.atTime ((start + arrival) % 2 ^ 64)).perform
          (.midi (quarterFrame t.starts fs.timeCode).bytes)).bind
        fun r => .ok (arrival, { t with bench := r.1, starts := t.starts + 1 }) := by
  have hle : elapsed ≤ arrival := harrival ▸ le_max_right _ _
  rw [frameStart_eq harrival, Word.minus_eq_ok_iff.mpr ⟨hle, rfl⟩]
  simp only [Except.bind, Bench.tick_eq_atTime hnow hle]

/-- What the start of a time code frame changes are the clock and the input. -/
lemma exists_of_frameStart {u : Session} {fs : FrameStart} {arrival elapsed' : Nat}
    (hmodule : t.bench.card.module = some m)
    (harrival : max (t.periodNanos
      - fs.samples * Ltc.nanosPerSecond * factor / t.rate.hz) elapsed = arrival)
    (h : t.frameStart factor elapsed fs = .ok (elapsed', u)) :
    elapsed' = arrival ∧ ∃ input,
      m.input.boundary (t.bench.tick (arrival - elapsed)).now = .ok input
        ∧ u = t.hear m input (t.bench.tick (arrival - elapsed)).now (t.starts + 1) := by
  rw [frameStart_eq harrival] at h
  obtain ⟨nanos, hnanos, h⟩ := exists_of_bind_eq_ok h
  obtain ⟨⟨bench, report⟩, hbench, h⟩ := exists_of_bind_eq_ok h
  obtain ⟨rfl, rfl⟩ := Prod.mk.inj (Except.ok.inj h)
  obtain ⟨-, rfl⟩ := Word.minus_eq_ok_iff.mp hnanos
  obtain ⟨input, hinput, rfl⟩ := Bench.exists_of_perform_boundary (b := t.bench.tick _) hmodule
    (isBoundary_quarterFrame _ _) hbench
  exact ⟨rfl, input, hinput, rfl⟩

/-- **Step.** The start of a time code frame is noted within the period. -/
lemma frameStart_hear (fs : FrameStart) (hinput : input.Clocked start (before + elapsed) starts)
    (hnow : now % 2 ^ 64 = (start + (before + elapsed)) % 2 ^ 64)
    (helapsed : elapsed ≤ t.periodNanos) (hfit : before + t.periodNanos < Ltc.maxDuration)
    (hstarts : starts + 1 < 2 ^ 64) :
    ∃ elapsed' input', (t.hear m input now starts).frameStart factor elapsed fs
        = .ok (elapsed',
          t.hear m input' ((start + (before + elapsed')) % 2 ^ 64) (starts + 1))
      ∧ elapsed ≤ elapsed' ∧ elapsed' ≤ t.periodNanos
      ∧ input'.Clocked start (before + elapsed') (starts + 1) ∧ input'.fresh = true := by
  obtain ⟨arrival, harrival, hle, hle'⟩ := t.exists_arrival fs factor helapsed
  obtain ⟨input', hboundary, hinput', hfresh⟩ :=
    (hinput.later (by omega : before + elapsed ≤ before + arrival)).boundary (by omega) hstarts
  refine ⟨arrival, input', ?_, hle, hle', hinput', hfresh⟩
  rw [← Nat.add_assoc] at hnow hboundary ⊢
  have hstart := frameStart_atTime (t := t.hear m input now starts) harrival hnow
  have hperform := Bench.perform_boundary (m := { m with input })
    (b := (t.hear m input now starts).bench.atTime ((start + before + arrival) % 2 ^ 64)) rfl
    (isBoundary_quarterFrame starts fs.timeCode) hboundary
  exact hstart.trans (congrArg (Except.bind · _) hperform)

/-- **Run.** The starts of time code frames are noted within the period, if there are any. -/
lemma frameStarts_hear (factor : Nat) (list : List FrameStart)
    (hinput : input.Clocked start (before + elapsed) starts)
    (hnow : now % 2 ^ 64 = (start + (before + elapsed)) % 2 ^ 64)
    (helapsed : elapsed ≤ t.periodNanos) (hfit : before + t.periodNanos < Ltc.maxDuration)
    (hstarts : starts + list.length < 2 ^ 64) :
    ∃ elapsed' input' now',
      frameStarts factor elapsed (t.hear m input now starts) list
          = .ok (elapsed', t.hear m input' now' (starts + list.length))
        ∧ elapsed' ≤ t.periodNanos
        ∧ now' % 2 ^ 64 = (start + (before + elapsed')) % 2 ^ 64
        ∧ input'.Clocked start (before + elapsed') (starts + list.length)
        ∧ (list = [] → input' = input) ∧ (list ≠ [] → input'.fresh = true) := by
  induction list generalizing elapsed input now starts with
  | nil =>
      exact ⟨elapsed, input, now, rfl, helapsed, hnow, hinput, fun _ => rfl,
        fun hne => absurd rfl hne⟩
  | cons fs rest ih =>
      rw [List.length_cons] at hstarts
      obtain ⟨elapsed₁, input₁, hstart, -, hle, hinput₁, hfresh₁⟩ :=
        frameStart_hear (m := m) fs hinput hnow helapsed hfit (by omega)
      obtain ⟨elapsed₂, input₂, now₂, hrest, hle₂, hnow₂, hinput₂, hnil, hcons⟩ :=
        ih hinput₁ (Nat.mod_mod _ _) hle (by omega)
      have hcount : starts + 1 + rest.length = starts + (fs :: rest).length := by
        rw [List.length_cons]
        omega
      rw [hcount] at hrest hinput₂
      refine ⟨elapsed₂, input₂, now₂, ?_, hle₂, hnow₂, hinput₂,
        fun h => absurd h (List.cons_ne_nil _ _), fun _ => ?_⟩
      · rw [frameStarts, hstart]
        exact hrest
      · by_cases hlast : rest = []
        · rw [hnil hlast, hfresh₁]
        · exact hcons hlast

end Session

end TimecodeCard
