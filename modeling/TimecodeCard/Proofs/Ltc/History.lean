import Mathlib.Tactic
import TimecodeCard.Proofs.Ltc.Durations

/-!
# The input tracker and its history

The tracker of the time code input carries a ring of durations, their running total and a flag.
What it answers can be told without them, from the history of boundaries and interrupts alone: the
durations are the differences of the instants at which boundaries arrived, the pull factor is that
of the newest 16 of them (`pullOf`), and an interrupt publishes if a boundary has come since the
one before (`Event.expected`).

The main result is `run?_follows_history`: a run publishes, notifies and reads what the history
says, event by event, the total of the ring stays the sum of the newest durations, and no check of
the total ever fails. `Knows` is the invariant, `Knows.step` the step and `Knows.run` the run.
-/

namespace TimecodeCard.Ltc

namespace Tracker

/-! ## Events and their history -/

/-- What happens to the time code input. -/
inductive Event
  /-- A boundary arrives at the instant. -/
  | boundary (now : Nat)
  /-- An audio interrupt comes at the absolute frame. -/
  | period (frames speed : Nat)

section Run

variable {δ : Type} [Device δ]

/-- The tracker and its device after the event, with the notices delivered. -/
def after? (x : Tracker × δ) : Event → Except Fault ((Tracker × δ) × List Notice)
  | .boundary now => (x.1.boundary now).map fun t => ((t, x.2), [])
  | .period frames speed =>
    let (t, notices, d) := x.1.period x.2 frames speed
    .ok ((t, d), notices.toList)

/-- The tracker and its device after the events, with the notices of each. -/
def run? (x : Tracker × δ) : List Event → Except Fault ((Tracker × δ) × List (List Notice))
  | [] => .ok (x, [])
  | e :: events => do
    let (y, notices) ← after? x e
    let (z, rest) ← run? y events
    return (z, notices :: rest)

end Run

/-- When the boundary arrived, if the event is one. -/
def Event.arrival? : Event → Option Nat
  | .boundary now => some now
  | .period _ _ => none

/-- The instants at which boundaries arrived, in the order of the events. -/
def arrivals (events : List Event) : List Nat :=
  events.filterMap Event.arrival?

/-- Whether each arrival comes less than `maxDuration` after the one before. A clock may go
backward by any time. -/
def Spaced (instants : List Nat) : Prop :=
  instants.IsChain fun before now => now < before + maxDuration

instance (instants : List Nat) : Decidable (Spaced instants) :=
  inferInstanceAs (Decidable (List.IsChain _ _))

/-- The arrivals since the latest interrupt. Here and below, the history has its newest event
first. -/
def arrivalsSince : List Event → List Nat
  | .boundary now :: history => now :: arrivalsSince history
  | _ => []

/-- The durations between arrivals, both with the newest one first. A clock which went backward
counts as no time at all. -/
def durations (instants : List Nat) : List Nat :=
  instants.zipWith (· - ·) instants.tail

/-- The newest 16 durations of the history. -/
def recent (history : List Event) : List Nat :=
  (durations (arrivals history)).take 16

/-! ## What is due -/

/-- The pull factor which durations give: the nominal one for none of them, for a rate of zero
frames, or if they are shorter than a microsecond on average. -/
def pullOf (durations : List Nat) (fps : Nat) : Nat :=
  let microseconds := durations.sum / durations.length / 1000
  if durations = [] ∨ fps = 0 ∨ microseconds = 0 then nominalPull
  else min ((1000000000 / microseconds + fps / 2) / fps) 65535

/-- What is published of the time code input. -/
structure Published where
  timeCode : TimeCode := ⟨0⟩
  startFrame : Nat := 0
  pullFactor : Nat := nominalPull
  deriving DecidableEq, Repr

/-- What the tracker has published last. -/
def published (t : Tracker) : Published :=
  { timeCode := t.timeCode, startFrame := t.startFrame, pullFactor := t.pullFactor }

section Expected

variable {δ : Type} [Device δ]

/-- What is published after an event with the history before it, and what the event notifies.
Nothing is read unless a boundary has arrived since the latest interrupt. -/
def Event.expected (history : List Event) (x : Published × δ) :
    Event → (Published × δ) × List Notice
  | .boundary _ => (x, [])
  | .period frames speed =>
    if arrivalsSince history = [] then (x, [])
    else
      let (reading, d) := Tco.Access.readTimeCode x.2
      let signals := reading.signals
      let pullFactor := pullOf (recent history) signals.rate.fps
      (({ timeCode := reading.timeCode.increment (signals.rate.counting signals.dropFrame)
          startFrame := frames - signals.offset * speed
          pullFactor }, d),
        .timeCodeIn :: if pullFactor = x.1.pullFactor then [] else [.pullFactorIn])

/-- What is published after the events, each with those before it as its history, and what they
notify. -/
def expected (history : List Event) (x : Published × δ) :
    List Event → (Published × δ) × List (List Notice)
  | [] => (x, [])
  | e :: events =>
    let (y, notices) := e.expected history x
    let (z, rest) := expected (e :: history) y events
    (z, notices :: rest)

end Expected

variable {history events : List Event} {t : Tracker} {now : Nat}

/-! ## Durations of the history -/

@[simp] lemma arrivals_boundary : arrivals (.boundary now :: history) = now :: arrivals history :=
  rfl

@[simp] lemma length_durations (instants : List Nat) :
    (durations instants).length = instants.length - 1 := by
  rw [durations, List.length_zipWith, List.length_tail]
  omega

lemma length_recent (history : List Event) :
    (recent history).length = min 16 ((arrivals history).length - 1) := by
  rw [recent, List.length_take, length_durations]

lemma length_arrivals_le (events history : List Event) :
    (arrivals history).length ≤ (arrivals (events.reverse ++ history)).length := by
  rw [arrivals, arrivals, List.filterMap_append, List.length_append]
  omega

/-- Arrivals which are spaced stay so when the first boundary becomes part of the history. -/
lemma spaced_boundary
    (h : Spaced ((arrivals history).head?.toList ++ arrivals (.boundary now :: events))) :
    (∀ before ∈ (arrivals history).head?, now < before + maxDuration)
      ∧ Spaced ((arrivals (.boundary now :: history)).head?.toList ++ arrivals events) := by
  rw [arrivals_boundary] at h
  cases hhead : (arrivals history).head? with
  | none =>
      rw [hhead] at h
      exact ⟨by simp, h⟩
  | some before =>
      rw [hhead] at h
      obtain ⟨hlt, hrest⟩ := List.isChain_cons_cons.mp h
      refine ⟨?_, hrest⟩
      rintro _ ⟨⟩
      exact hlt

lemma min_count_eq {w : Window} (h : w.Holds (durations (arrivals history))) :
    min w.count 16 = (recent history).length := by
  rw [h.count_eq, length_recent, length_durations, Nat.min_comm]

/-- A window of the durations gives their pull factor. -/
lemma pullFactor_eq_pullOf {w : Window} (h : w.Holds (durations (arrivals history))) (fps : Nat) :
    w.pullFactor fps = pullOf (recent history) fps := by
  have htotal : w.total = (recent history).sum := h.total_eq
  simp only [Window.pullFactor, pullOf, min_count_eq h, htotal, List.length_eq_zero_iff]

/-- Publishing leaves alone what the next duration is measured by. -/
lemma exists_publish_eq (t : Tracker) (reading : Tco.Access.Reading) (frames speed : Nat) :
    ∃ timeCode startFrame pullFactor, (t.publish reading frames speed).1
      = { t with timeCode, startFrame, pullFactor, fresh := false } :=
  ⟨_, _, _, rfl⟩

lemma published_publish {reading : Tco.Access.Reading} {pullFactor : Nat}
    (h : t.window.pullFactor reading.signals.rate.fps = pullFactor) (frames speed : Nat) :
    (t.publish reading frames speed).1.published
      = { timeCode :=
            reading.timeCode.increment (reading.signals.rate.counting reading.signals.dropFrame)
          startFrame := frames - reading.signals.offset * speed
          pullFactor } := by
  rw [publish, published, h]

lemma toList_publish {reading : Tco.Access.Reading} {pullFactor : Nat}
    (h : t.window.pullFactor reading.signals.rate.fps = pullFactor) (frames speed : Nat) :
    (t.publish reading frames speed).2.toList
      = .timeCodeIn :: if pullFactor = t.pullFactor then [] else [.pullFactorIn] := by
  rw [publish, h]
  by_cases hsame : pullFactor = t.pullFactor
  · rw [if_pos hsame]
    simp only [hsame, ne_eq, not_true_eq_false, decide_false]
    rfl
  · rw [if_neg hsame]
    simp only [hsame, ne_eq, not_false_eq_true, decide_true]
    rfl

/-! ## The tracker knows its history -/

/-- Whether the tracker is what the history leaves of it. -/
structure Knows (history : List Event) (t : Tracker) : Prop where
  measures : t.Measures (durations (arrivals history))
  lastArrival_eq : t.lastArrival = (arrivals history).head?
  fresh_iff : t.fresh = true ↔ arrivalsSince history ≠ []

lemma knows_default : Knows [] {} where
  measures := ⟨Window.holds_nil, by simp [durations, arrivals]⟩
  lastArrival_eq := rfl
  fresh_iff := by simp [arrivalsSince]

namespace Knows

lemma inTime (h : Knows history t)
    (hnow : ∀ before ∈ (arrivals history).head?, now < before + maxDuration) : t.InTime now := by
  intro before hbefore
  apply hnow
  rw [← h.lastArrival_eq, hbefore]
  rfl

lemma durationsAt_eq (h : Knows history t) (now : Nat) :
    t.durationsAt now (durations (arrivals history))
      = durations (arrivals (.boundary now :: history)) := by
  rw [durationsAt, h.lastArrival_eq, arrivals_boundary]
  cases arrivals history with
  | nil => rfl
  | cons before instants => rfl

/-- **Boundary.** It is noted, unless the durations cannot be counted any more. -/
lemma boundary (h : Knows history t)
    (hnow : ∀ before ∈ (arrivals history).head?, now < before + maxDuration) :
    (∃ t', t.boundary now = .ok t' ∧ t'.published = t.published
        ∧ Knows (.boundary now :: history) t')
      ∨ t.boundary now = .error .overflow
        ∧ 2 ^ 64 < (arrivals (.boundary now :: history)).length := by
  have hlength := h.measures.holds.count_eq
  rw [length_durations] at hlength
  by_cases hcount : t.window.count + 1 < 2 ^ 64
  · obtain ⟨t', hok, hmeasures⟩ := h.measures.boundary (h.inTime hnow) hcount
    rw [h.durationsAt_eq] at hmeasures
    obtain ⟨w, -, rfl⟩ := exists_of_map_eq_ok hok
    exact .inl ⟨_, hok, rfl, hmeasures, rfl, by simp [arrivalsSince]⟩
  · have harrivals : 2 ^ 64 ≤ (arrivals history).length := by omega
    obtain ⟨before, hbefore⟩ : ∃ before, (arrivals history).head? = some before := by
      rw [← Option.isSome_iff_exists, List.isSome_head?]
      exact List.ne_nil_of_length_pos (by omega)
    have hd : now - before < maxDuration := by
      have hlt := hnow before hbefore
      have hpos : 0 < maxDuration := by decide
      omega
    obtain ⟨hle, hfit⟩ := h.measures.holds.total_fits h.measures.bound hd
    refine .inr ⟨?_, Nat.lt_succ_of_le harrivals⟩
    have hover : Word.fit64 (t.window.count + 1) = .error .overflow := if_neg hcount
    rw [Tracker.boundary, measure, h.lastArrival_eq, hbefore]
    simp only [Window.record_eq hle hfit, hover]
    rfl

variable {δ : Type} [Device δ]

lemma period_of_quiet (h : Knows history t) (hquiet : arrivalsSince history = []) (d : δ)
    (frames speed : Nat) : t.period d frames speed = (t, ∅, d) := by
  have hstale : ¬ t.fresh = true := fun hfresh => h.fresh_iff.mp hfresh hquiet
  rw [Tracker.period, if_neg hstale]

/-- **Interrupt.** It publishes what is due. -/
lemma period (h : Knows history t) (d : δ) (frames speed : Nat) :
    ∃ t' d' notices, after? (t, d) (.period frames speed) = .ok ((t', d'), notices)
      ∧ (Event.period frames speed).expected history (t.published, d)
        = ((t'.published, d'), notices)
      ∧ Knows (.period frames speed :: history) t' := by
  by_cases hquiet : arrivalsSince history = []
  · have hstale : ¬ t.fresh = true := fun hfresh => h.fresh_iff.mp hfresh hquiet
    refine ⟨t, d, [], ?_, ?_, h.measures, h.lastArrival_eq, ?_⟩
    · rw [after?, h.period_of_quiet hquiet]
      rfl
    · rw [Event.expected, if_pos hquiet]
    · simp [hstale, arrivalsSince]
  · have hfresh : t.fresh = true := h.fresh_iff.mpr hquiet
    have hpull := pullFactor_eq_pullOf h.measures.holds
    refine ⟨(t.publish (Tco.Access.readTimeCode d).1 frames speed).1,
      (Tco.Access.readTimeCode d).2,
      (t.publish (Tco.Access.readTimeCode d).1 frames speed).2.toList, ?_, ?_, ?_⟩
    · rw [after?, Tracker.period, if_pos hfresh]
    · rw [Event.expected, if_neg hquiet, published_publish (hpull _), toList_publish (hpull _)]
      rfl
    · obtain ⟨_, _, _, hpublish⟩ := t.exists_publish_eq (Tco.Access.readTimeCode d).1 frames speed
      rw [hpublish]
      exact ⟨⟨h.measures.holds, h.measures.bound⟩, h.lastArrival_eq, by simp [arrivalsSince]⟩

/-- **Step.** An event does what is due after the history and becomes part of it, unless it is one
boundary too many. -/
lemma step (h : Knows history t) (d : δ) (e : Event)
    (hspaced : Spaced ((arrivals history).head?.toList ++ arrivals (e :: events))) :
    (∃ t' d' notices, after? (t, d) e = .ok ((t', d'), notices)
        ∧ e.expected history (t.published, d) = ((t'.published, d'), notices)
        ∧ Knows (e :: history) t'
        ∧ Spaced ((arrivals (e :: history)).head?.toList ++ arrivals events))
      ∨ after? (t, d) e = .error .overflow ∧ 2 ^ 64 < (arrivals (e :: history)).length := by
  cases e with
  | boundary now =>
      obtain ⟨hnow, hrest⟩ := spaced_boundary hspaced
      rcases h.boundary hnow with ⟨t', hok, hpublished, hknows⟩ | ⟨herror, hlength⟩
      · refine .inl ⟨t', d, [], ?_, ?_, hknows, hrest⟩
        · rw [after?, hok]
          rfl
        · rw [Event.expected, hpublished]
      · refine .inr ⟨?_, hlength⟩
        rw [after?, herror]
        rfl
  | period frames speed =>
      obtain ⟨t', d', notices, hok, hexpected, hknows⟩ := h.period d frames speed
      exact .inl ⟨t', d', notices, hok, hexpected, hknows, hspaced⟩

/-- **Run.** The induction goes along the events, and the history takes them up one by one. -/
lemma run (h : Knows history t) (d : δ) (events : List Event)
    (hspaced : Spaced ((arrivals history).head?.toList ++ arrivals events)) :
    (∃ t' d' notices, run? (t, d) events = .ok ((t', d'), notices)
        ∧ expected history (t.published, d) events = ((t'.published, d'), notices)
        ∧ Knows (events.reverse ++ history) t')
      ∨ run? (t, d) events = .error .overflow
        ∧ 2 ^ 64 < (arrivals (events.reverse ++ history)).length := by
  induction events generalizing history t d with
  | nil => exact .inl ⟨t, d, [], rfl, rfl, h⟩
  | cons e events ih =>
      rw [run?, expected, List.reverse_cons, List.append_assoc, List.singleton_append]
      rcases h.step d e hspaced with ⟨t', d', notices, hafter, hdue, ht', hrest⟩ | ⟨herror, hlength⟩
      · rw [hafter, hdue]
        rcases ih ht' d' hrest with ⟨t'', d'', rest, hrun, hexpected, ht''⟩ | ⟨herror, hlength⟩
        · refine .inl ⟨t'', d'', notices :: rest, ?_, ?_, ht''⟩
          · simp only [bind, Except.bind, hrun]
            rfl
          · simp only [hexpected]
        · refine .inr ⟨?_, hlength⟩
          simp only [bind, Except.bind, herror]
      · refine .inr ⟨?_, lt_of_lt_of_le hlength (length_arrivals_le events (e :: history))⟩
        rw [herror]
        rfl

end Knows

/-! ## A run and its history -/

variable {δ : Type} [Device δ]

/-- **The input follows its history.** A run from the start publishes, notifies and reads what the
history says. The total is the sum of the recent durations, and the pull factor is theirs for every
rate. Another boundary, whenever it comes, finds the oldest duration in the total and room for a
new one, and another interrupt without a boundary before it does nothing at all. Only more
boundaries than 64 bits can count end a run with a fault. -/
theorem run?_follows_history (d : δ) (hspaced : Spaced (arrivals events)) :
    (∃ t d' notices, run? ({}, d) events = .ok ((t, d'), notices)
        ∧ expected [] ({}, d) events = ((t.published, d'), notices)
        ∧ t.window.total = (recent events.reverse).sum
        ∧ (∀ fps, t.window.pullFactor fps = pullOf (recent events.reverse) fps)
        ∧ (∀ before now, t.lastArrival = some before → now < before + maxDuration →
          t.window.oldest ≤ t.window.total
            ∧ t.window.total - t.window.oldest + (now - before) < 2 ^ 64)
        ∧ (arrivalsSince events.reverse = [] →
          ∀ frames speed, t.period d' frames speed = (t, ∅, d')))
      ∨ run? ({}, d) events = .error .overflow ∧ 2 ^ 64 < (arrivals events).length := by
  rcases knows_default.run d events hspaced with ⟨t, d', notices, hrun, hexpected, ht⟩ | herror
  · rw [List.append_nil] at ht
    refine .inl ⟨t, d', notices, hrun, hexpected, ht.measures.holds.total_eq,
      pullFactor_eq_pullOf ht.measures.holds, ?_, fun hquiet => ht.period_of_quiet hquiet d'⟩
    intro before now hbefore hnow
    have hd : now - before < maxDuration := by
      have hpos : 0 < maxDuration := by decide
      omega
    exact ht.measures.holds.total_fits ht.measures.bound hd
  · refine .inr ⟨herror.1, ?_⟩
    simpa [arrivals] using herror.2

/-- Twenty boundaries at 25 frames a second and an interrupt, then a boundary after the clock was
set back to its start. -/
def setBack : List Event :=
  (List.range 20).map (fun n => Event.boundary (40000000 * n)) ++ [.period 4096 2, .boundary 0]

/-- The ring has been filled more than once when the clock is set back, and the duration which
counts as none raises the pull factor. -/
theorem run?_follows_history_set_back :
    Spaced (arrivals setBack)
      ∧ ∃ t d' notices, run? ({}, ({ answers := [0, 0x640400, 0] } : Scripted)) setBack
          = .ok ((t, d'), notices)
        ∧ t.window.total = 15 * 40000000 ∧ t.window.pullFactor 25 = 1067 := by
  have hspaced : Spaced (arrivals setBack) := by decide
  refine ⟨hspaced, ?_⟩
  rcases run?_follows_history ({ answers := [0, 0x640400, 0] } : Scripted) hspaced with
    ⟨t, d', notices, hrun, -, htotal, hpull, -⟩ | ⟨-, hlength⟩
  · have hrecent : recent setBack.reverse = 0 :: List.replicate 15 40000000 := by decide
    rw [hrecent] at htotal
    refine ⟨t, d', notices, hrun, htotal, ?_⟩
    rw [hpull, hrecent]
    rfl
  · exact absurd hlength (by decide)

end Tracker

end TimecodeCard.Ltc
