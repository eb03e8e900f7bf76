import Mathlib.Tactic
import TimecodeCard.Proofs.Card.Lengths
import TimecodeCard.Proofs.Card.ModuleSteps
import TimecodeCard.Proofs.Ltc.Durations
import TimecodeCard.Proofs.Ltc.Landing

/-!
# Events of hardware complete

An interrupt, a MIDI message or a poll is computed on words, and a number which leaves its word
would stop the computation. Nothing of the kind may happen as long as the numbers which the card
keeps are sound (`Card.Sound`): the turns of the pointer are in the published position, a
duration is short, and a target is in its word. Every operation keeps them so
(`Card.Sound.of_effect`), if boundaries come in time and requests are in range (`Card.Timely`). A
restore may bring in anything, since it changes none of these numbers but the length of the period,
which any latency has in range.

There is one exception, a request for the real time clock with an offset which leads out of the
signed word (`Ltc.Request.Overruns`). The main result `Card.ReachableBy.hardware_events_complete`
says that on a card whose counters are not exhausted a MIDI message and a poll always complete,
and that an interrupt does unless it has to schedule such a request.
-/

namespace TimecodeCard

/-! ## Position -/

namespace Position

/-- Whether the turns of the pointer are in the published position, and the length of the period
is in range. -/
structure Sound (p : Position) : Prop where
  turns_le : p.turns * pointerSpan ≤ p.frames
  periodSize_pos : 0 < p.periodSize
  periodSize_le : p.periodSize ≤ 8192

variable {p q : Position} {pointer : Nat}

lemma Sound.of_update (h : p.Sound) (hupdate : p.update pointer = .ok q) : q.Sound := by
  obtain ⟨turns, aligned, rfl⟩ := exists_of_update hupdate
  exact ⟨Nat.le_add_right _ _, h.periodSize_pos, h.periodSize_le⟩

/-- A pointer adds a turn at most. -/
lemma Sound.exists_turnsAt (h : p.Sound) (hframes : p.frames < 2 ^ 62) (pointer : Nat) :
    ∃ turns, p.turnsAt pointer = .ok turns ∧ turns * pointerSpan < 2 ^ 62 + 2 ^ 15 := by
  have hturns := h.turns_le
  have hle : p.turns ≤ p.turns * pointerSpan := Nat.le_mul_of_pos_right _ (by decide)
  have hnext : (p.turns + 1) * pointerSpan = p.turns * pointerSpan + pointerSpan := by ring
  unfold turnsAt
  split
  · refine ⟨p.turns + 1, Word.fit64_eq_ok_iff.mpr ⟨by omega, rfl⟩, ?_⟩
    rw [hnext]
    exact Nat.add_lt_add (lt_of_le_of_lt hturns hframes) (by decide)
  · exact ⟨p.turns, rfl, lt_of_le_of_lt hturns (by omega)⟩

lemma Sound.exists_alignDown (h : p.Sound) (pointer : Nat) :
    ∃ aligned, alignDown pointer p.periodSize = .ok aligned ∧ aligned ≤ pointer := by
  have hminus : Word.minus p.periodSize 1 = .ok (p.periodSize - 1) :=
    Word.minus_eq_ok_iff.mpr ⟨h.periodSize_pos, rfl⟩
  rw [alignDown, hminus]
  exact ⟨_, rfl, Nat.and_le_left⟩

lemma Sound.exists_update (h : p.Sound) (hframes : p.frames < 2 ^ 62) (pointer : Nat) :
    ∃ q, p.update pointer = .ok q ∧ q.frames < 2 ^ 62 + 2 ^ 16
      ∧ q.periodSize = p.periodSize := by
  have hpointer : pointer % pointerSpan < 16384 := Nat.mod_lt _ (by decide)
  obtain ⟨turns, hturns, hle⟩ := h.exists_turnsAt hframes (pointer % pointerSpan)
  obtain ⟨aligned, haligned, hle'⟩ := h.exists_alignDown (pointer % pointerSpan)
  have hbound : turns * pointerSpan + aligned < 2 ^ 62 + 2 ^ 16 := by
    generalize turns * pointerSpan = start at *
    omega
  have hstart : Word.fit64 (turns * pointerSpan) = .ok (turns * pointerSpan) :=
    Word.fit64_eq_ok_iff.mpr ⟨lt_trans hle (by decide), rfl⟩
  have hsum : Word.fit64 (turns * pointerSpan + aligned) = .ok (turns * pointerSpan + aligned) :=
    Word.fit64_eq_ok_iff.mpr ⟨lt_trans hbound (by decide), rfl⟩
  refine ⟨{ p with
    pointer := pointer % pointerSpan, turns, frames := turns * pointerSpan + aligned },
    ?_, hbound, rfl⟩
  rw [update]
  simp only [bind, Except.bind, hturns, haligned, hstart, hsum]
  rfl

end Position

/-! ## Time code module -/

namespace Tco.Module

/-- Whether the durations which the module keeps are short and a waiting request is in range. -/
structure Sound (m : Module) : Prop where
  measures : ∃ durations, m.input.Measures durations
  pending : ∀ r, m.output.pending = some r → r.InRange

variable {m m' : Module}

lemma sound_default : Sound {} where
  measures := ⟨[], Ltc.Window.holds_nil, fun _ h => nomatch h⟩
  pending _ h := nomatch h

lemma Sound.congr (h : m.Sound) (hwindow : m'.input.window = m.input.window)
    (hpending : m'.output.pending = m.output.pending ∨ m'.output.pending = none) : m'.Sound := by
  obtain ⟨durations, hholds, hbound⟩ := h.measures
  refine ⟨⟨durations, hwindow ▸ hholds, hbound⟩, fun r hr => ?_⟩
  rcases hpending with heq | hnone
  · exact h.pending r (heq.symm.trans hr)
  · exact nomatch hnone.symm.trans hr

lemma Sound.request (h : m.Sound) {r : Ltc.Request} (hr : r.InRange) : (m.request r).Sound := by
  refine ⟨h.measures, fun s hs => ?_⟩
  obtain ⟨-, hs⟩ := Option.ite_none_left_eq_some.mp hs
  obtain rfl := Option.some.inj hs
  exact hr

lemma Sound.exists_boundary (h : m.Sound) {now : Nat} (htime : m.input.InTime now)
    (hcount : m.input.window.count + 1 < 2 ^ 64) : ∃ m', m.boundary now = .ok m' := by
  obtain ⟨durations, hmeasures⟩ := h.measures
  obtain ⟨input, hboundary, -⟩ := hmeasures.boundary htime hcount
  rw [Module.boundary, hboundary]
  exact ⟨_, rfl⟩

lemma Sound.of_boundary (h : m.Sound) {now : Nat} (htime : m.input.InTime now)
    (hboundary : m.boundary now = .ok m') : m'.Sound := by
  obtain ⟨durations, hmeasures⟩ := h.measures
  obtain ⟨input, hinput, rfl⟩ := exists_of_map_eq_ok hboundary
  exact ⟨⟨_, hmeasures.of_boundary htime hinput⟩, h.pending⟩

variable {δ : Type} [Device δ]

lemma Sound.terminate (h : m.Sound) (d : δ) : (m.terminate d).1.Sound :=
  h.congr rfl (.inr rfl)

lemma Sound.restore (h : m.Sound) (d : δ) (s : Saved) : (m.restore d s).1.Sound :=
  h.congr rfl (.inl rfl)

lemma Sound.poll (h : m.Sound) (d : δ) : (m.poll d).1.Sound :=
  h.congr rfl (.inl rfl)

lemma Sound.configure (h : m.Sound) (d : δ) (config : Config) :
    (m.configure d config).2.1.Sound := by
  rw [configure_eq]
  exact h.congr rfl (.inl rfl)

lemma Sound.followCard (h : m.Sound) (d : δ) (card : BaseFrequency) :
    (m.followCard d card).2.1.Sound := by
  obtain ⟨sampleRate, cache, heq⟩ := m.exists_followCard_eq d card
  rw [heq]
  exact h.congr rfl (.inl rfl)

/-- Scheduling is all that can go wrong with the output. -/
lemma exists_outputPeriod_iff {o : Ltc.Output} {t : Ltc.Target δ} {moment : Ltc.Moment} :
    (∃ p, o.period t moment = .ok p)
      ↔ ∀ r, o.pending = some r → ∃ s, Ltc.schedule? r moment = .ok s := by
  unfold Ltc.Output.period
  cases o.pending with
  | none =>
      constructor
      · intro _ r hr
        exact nomatch hr
      · intro _
        exact ⟨_, rfl⟩
  | some r =>
      refine (exists_bind_eq_ok_iff fun _ => ⟨_, rfl⟩).trans ?_
      simp only [Option.some.injEq, forall_eq']

/-- An interrupt has to schedule a waiting request, which is a fault if it overruns. -/
lemma Sound.exists_period_iff (h : m.Sound) {d : δ} {frames periodSize speed now : Nat}
    (hframes : frames < 2 ^ 62 + 2 ^ 16) (hperiodSize : periodSize ≤ 8192) :
    (∃ p, m.period d frames periodSize speed now = .ok p)
      ↔ ∀ r, m.output.pending = some r → ¬ r.Overruns now := by
  have hreach : (m.moment frames periodSize speed now).InReach :=
    { frames_lt := hframes
      periodSize_lt := lt_of_le_of_lt hperiodSize (by decide) }
  refine (exists_bind_eq_ok_iff fun _ => ⟨_, rfl⟩).trans (exists_outputPeriod_iff.trans ?_)
  exact forall₂_congr fun r hr => hreach.exists_schedule?_iff (h.pending r hr)

lemma Sound.of_period (h : m.Sound) {d : δ} {frames periodSize speed now : Nat}
    {p : ModulePeriod δ} (hperiod : m.period d frames periodSize speed now = .ok p) :
    p.module.Sound := by
  obtain ⟨durations, hmeasures⟩ := h.measures
  obtain ⟨o, houtput, rfl⟩ := period_cases hperiod
  refine ⟨⟨durations, hmeasures.period d frames speed⟩, ?_⟩
  intro r hr
  exact nomatch (Ltc.Output.pending_period houtput).symm.trans hr

end Tco.Module

/-! ## The card -/

namespace Card

variable {δ : Type}

/-- Whether the numbers which the card keeps leave room for the next event. -/
structure Sound (c : Card δ) : Prop where
  position : c.position.Sound
  module : ∀ m, c.module = some m → m.Sound

/-- Whether a boundary comes in time and a request is in range. -/
def Timely (c : Card δ) (now : Nat) : Operation → Prop
  | .midi bytes => isBoundary bytes = true → ∀ m, c.module = some m → m.input.InTime now
  | .request r => r.InRange
  | .requestWide code target => Ltc.Request.InRange { timeCode := .ofWide code, target }
  | _ => True

variable {c c' : Card δ} {m : Tco.Module} {now : Nat}

namespace Sound

lemma withModule (h : c.Sound) (hm : m.Sound) (d : δ) :
    Sound { c with module := some m, device := d } where
  position := h.position
  module _ hsome := Option.some.inj hsome ▸ hm

variable [Device δ]

lemma writeControl (h : c.Sound) (control : Control) : (c.writeControl control).Sound :=
  ⟨h.position, h.module⟩

lemma rewritten (h : c.Sound) (control : Control) : (c.rewritten control).Sound where
  position :=
    { turns_le := h.position.turns_le
      periodSize_pos := (c.model.periodSize_bounds control.latency).1
      periodSize_le := (c.model.periodSize_bounds control.latency).2 }
  module := h.module

lemma counted (h : c.Sound) {position : Position} {pointer : Nat}
    (hposition : c.position.update pointer = .ok position) : (c.counted position).Sound :=
  ⟨h.position.of_update hposition, h.module⟩

lemma attach (model : CardModel) (d : δ) : (Card.attach model d).Sound := by
  have hposition : (Card.attach model d).position.Sound := by
    have hbounds := model.periodSize_bounds initialLatency
    unfold Card.attach
    simp only
    split <;> exact ⟨Nat.le_of_eq (Nat.zero_mul _), hbounds.1, hbounds.2⟩
  refine ⟨hposition, fun m hm => ?_⟩
  obtain ⟨d', rfl⟩ := exists_start_of_attach hm
  exact Tco.Module.sound_default.congr rfl (.inl rfl)

/-- **Step.** Every effect of an operation which is timely leaves the card sound. -/
lemma of_effect (h : c.Sound) {op : Operation} {report : Report} (htimely : Timely c now op)
    (heffect : Effect c now op c' report) : c'.Sound := by
  cases heffect with
  | refuse _ | skip _ | keepRate _ | pass _ => exact h
  | ignore _ => exact ⟨h.position, h.module⟩
  | count _ hposition _ => exact h.counted hposition
  | @serve _ m p _ hposition hmodule hperiod =>
      exact (h.counted hposition).withModule ((h.module m hmodule).of_period hperiod) p.device
  | @hear _ m _ hbytes hmodule hboundary =>
      exact h.withModule ((h.module m hmodule).of_boundary (htimely hbytes m hmodule) hboundary)
        c.device
  | @poll m hmodule => exact h.withModule ((h.module m hmodule).poll c.device) _
  | start | stop | writeRate _ _ _ => exact h.writeControl _
  | terminate =>
      exact terminate_keeps h
        (fun m hmodule => h.withModule ((h.module m hmodule).terminate c.device) _)
        fun _ hd => hd.writeControl _
  | resize _ hlatency =>
      rw [← CardModel.periodSize_of_latencyCode? hlatency]
      exact h.rewritten _
  | @followRate rate m _ _ hmodule =>
      exact (h.writeControl _).withModule ((h.module m hmodule).followCard _ rate.base) _
  | @configure _ m config hmodule _ =>
      exact h.withModule ((h.module m hmodule).configure c.device config) _
  | @request r m hmodule => exact h.withModule ((h.module m hmodule).request htimely) c.device
  | @requestWide code target m hmodule =>
      exact h.withModule ((h.module m hmodule).request htimely) c.device
  | reset _ => exact h.rewritten _
  | @restore s m t hmodule _ =>
      exact (h.rewritten s.control).withModule ((h.module m hmodule).restore _ t) _

end Sound

/-! ## Completion -/

namespace Sound

lemma exists_midi (h : c.Sound) {bytes : List UInt8} (htime : Timely c now (.midi bytes))
    (hcount : ∀ m, c.module = some m → m.input.window.count + 1 < 2 ^ 64) :
    ∃ x, c.midi bytes now = .ok x := by
  unfold Card.midi
  split
  · next hboundary =>
      split
      · exact ⟨_, rfl⟩
      · next m hm =>
          obtain ⟨m', hm'⟩ :=
            (h.module m hm).exists_boundary (htime hboundary m hm) (hcount m hm)
          rw [hm']
          exact ⟨_, rfl⟩
  · exact ⟨_, rfl⟩

variable [Device δ]

lemma exists_servePeriod_iff (h : c.Sound) (hframes : c.position.frames < 2 ^ 62)
    (hinterrupts : c.interrupts + 1 < 2 ^ 64) (pointer now : Nat) :
    (∃ i, c.servePeriod pointer now = .ok i)
      ↔ ∀ m, c.module = some m → ∀ r, m.output.pending = some r → ¬ r.Overruns now := by
  have hfit : Word.fit64 (c.interrupts + 1) = .ok (c.interrupts + 1) :=
    Word.fit64_eq_ok_iff.mpr ⟨hinterrupts, rfl⟩
  obtain ⟨q, hupdate, hq, hperiodSize⟩ := h.position.exists_update hframes pointer
  have hle : q.periodSize ≤ 8192 := hperiodSize ▸ h.position.periodSize_le
  unfold Card.servePeriod
  simp only [bind, Except.bind, hfit, hupdate]
  cases hmodule : c.module with
  | none =>
      constructor
      · intro _ m hm
        exact nomatch hm
      · intro _
        exact ⟨_, rfl⟩
  | some m =>
      refine (exists_bind_eq_ok_iff fun _ => ⟨_, rfl⟩).trans ?_
      refine ((h.module m hmodule).exists_period_iff hq hle).trans ?_
      simp only [Option.some.injEq, forall_eq']

end Sound

/-! ## Reachable cards -/

variable [Device δ]

/-- Whether an interrupt has to schedule a request for the real time clock which overruns. -/
def Overruns (c : Card δ) (now : Nat) : Prop :=
  (CardStatus.read c.device).1.interruptPending = true
    ∧ ∃ m, c.module = some m ∧ ∃ r, m.output.pending = some r ∧ r.Overruns now

lemma Sound.exists_interrupt_iff (h : c.Sound) (hframes : c.position.frames < 2 ^ 62)
    (hinterrupts : c.interrupts + 1 < 2 ^ 64) (now : Nat) :
    (∃ i, c.interrupt now = .ok i) ↔ ¬ c.Overruns now := by
  unfold Card.interrupt Overruns
  simp only
  split
  · next hpending =>
      have hconfirmed : Sound { c with
          device := CardStatus.confirm (CardStatus.read c.device).2 } := ⟨h.position, h.module⟩
      refine (hconfirmed.exists_servePeriod_iff hframes hinterrupts _ now).trans ?_
      simp only [hpending, true_and, not_exists, not_and]
  · next hpending =>
      constructor
      · rintro - ⟨hpending', -⟩
        exact hpending hpending'
      · intro _
        exact ⟨_, rfl⟩

/-- **Run.** Timely operations keep the card sound. -/
lemma ReachableBy.sound {model : CardModel} (h : ReachableBy Timely model c) : c.Sound := by
  induction h with
  | attach d => exact .attach model d
  | perform _ htimely hperform ih => exact ih.of_effect htimely (perform_effect hperform)

/-- **Events of hardware complete.** On every card which timely operations lead to, whatever they
restore, and whose counters are not exhausted, a timely message and a poll complete, and an
interrupt does so exactly if it does not have to schedule a request which overruns. -/
theorem ReachableBy.hardware_events_complete {model : CardModel}
    (h : ReachableBy Timely model c) (hframes : c.position.frames < 2 ^ 62)
    (hinterrupts : c.interrupts + 1 < 2 ^ 64)
    (hcount : ∀ m, c.module = some m → m.input.window.count + 1 < 2 ^ 64) (now : Nat) :
    ((∃ x, c.perform now .interrupt = .ok x) ↔ ¬ c.Overruns now)
      ∧ (∀ bytes, Timely c now (.midi bytes) → ∃ x, c.perform now (.midi bytes) = .ok x)
      ∧ ∃ x, c.perform now .poll = .ok x := by
  refine ⟨?_, ?_, ?_⟩
  · refine (exists_bind_eq_ok_iff fun _ => ⟨_, rfl⟩).trans ?_
    exact h.sound.exists_interrupt_iff hframes hinterrupts now
  · intro bytes htime
    exact (exists_bind_eq_ok_iff fun _ => ⟨_, rfl⟩).mpr (h.sound.exists_midi htime hcount)
  · exact ⟨_, rfl⟩

/-- A card with a request for the real time clock waiting, an hour ahead. -/
theorem ReachableBy.hardware_events_complete_hour_ahead :
    ∃ (c : Card Scripted) (x : Card Scripted × Report), ReachableBy Timely .aio c
      ∧ c.position.frames < 2 ^ 62 ∧ c.interrupts + 1 < 2 ^ 64
      ∧ (∀ m, c.module = some m → m.input.window.count + 1 < 2 ^ 64)
      ∧ c.perform 1000000000 .interrupt = .ok x := by
  have hattached : ReachableBy Timely .aio
      (Card.attach .aio (⟨[0, 8, 0, 0, 0, 0, 1, 8]⟩ : Scripted)) := .attach _
  have hrequested := hattached.perform
    (show Timely _ 0 (.request ⟨TimeCode.wallClock, 3600⟩) from ⟨by decide, by decide⟩)
    (show Card.perform _ 0 _ = .ok _ from rfl)
  obtain ⟨hinterrupt, -, -⟩ := hardware_events_complete hrequested (show 0 < 2 ^ 62 by decide)
    (show 0 + 1 < 2 ^ 64 by decide)
    (fun m hm => by obtain rfl := Option.some.inj hm; exact (show 0 + 1 < 2 ^ 64 by decide))
    1000000000
  obtain ⟨x, hx⟩ := hinterrupt.mpr (by
    rintro ⟨-, m, hm, r, hr, -, hle⟩
    obtain rfl := Option.some.inj hm
    obtain rfl := Option.some.inj hr
    exact absurd hle (by decide))
  exact ⟨_, x, hrequested, by decide, by decide,
    fun m hm => by obtain rfl := Option.some.inj hm; exact (show 0 + 1 < 2 ^ 64 by decide), hx⟩

/-- One second after the epoch, an offset of the largest word overruns. -/
theorem ReachableBy.interrupt_overruns :
    ∃ c : Card Scripted, ReachableBy Timely .aio c ∧ c.position.frames < 2 ^ 62
      ∧ c.perform 1000000000 .interrupt = .error .overflow := by
  have hattached : ReachableBy Timely .aio
      (Card.attach .aio (⟨[0, 8, 0, 0, 0, 0, 1, 8]⟩ : Scripted)) := .attach _
  have hrequested := hattached.perform
    (show Timely _ 0 (.request ⟨TimeCode.wallClock, 2 ^ 63 - 1⟩) from ⟨by decide, by decide⟩)
    (show Card.perform _ 0 _ = .ok _ from rfl)
  exact ⟨_, hrequested, by decide, rfl⟩

end Card

end TimecodeCard
