import Mathlib.Tactic
import TimecodeCard.Simulation.Session
import TimecodeCard.Proofs.Simulation.InStep

/-!
# Setting up a card on simulated registers

A card of any model but MADIface finds the module of its simulated registers, and is at rest
(`Card.AtRest`): no period has gone by, and nothing is at the input or waits at the output. Until
the engine starts, a client can set the clock rate, a length of the period which the model has and
the parameters of the module. None of this is refused, and the card stays at rest. A session sets
up its card in this way (`Session.exists_prepare`) before it asks for the time code output
(`Session.exists_ask`).
-/

namespace TimecodeCard

namespace Card

/-- Whether the card is at rest before the first period, with nothing at its input and output. -/
structure AtRest (c : Card (Recorded Simulator)) : Prop where
  inStep : c.InStep 0 0
  stopped : c.control.started = false
  idle : ∃ m, c.module = some m ∧ m.input = {} ∧ m.output = {}

variable {c : Card (Recorded Simulator)}

/-! ## Attaching -/

lemma hasModule_powerOn {model : CardModel} (hmodel : model ≠ .madiFace) :
    (CardStatus.read ({ device := Simulator.powerOn model true } : Recorded Simulator)).1.hasModule
      model = true := by
  rw [(Simulator.read_cardStatus _).1]
  cases model with
  | madiFace => exact absurd rfl hmodel
  | _ => rfl

lemma atRest_attach {model : CardModel} (hmodel : model ≠ .madiFace) :
    (Card.attach model
      ({ device := Simulator.powerOn model true } : Recorded Simulator)).AtRest := by
  have houtside := Simulator.outside_steps (Tco.Module.steps_start
    (CardStatus.read ({ device := Simulator.powerOn model true } : Recorded Simulator)).2)
  unfold Card.attach
  simp only [hasModule_powerOn hmodel, if_true]
  refine ⟨?_, rfl, _, rfl, rfl, rfl⟩
  exact {
    model_eq := congrArg Simulator.model houtside
    hasModule := congrArg Simulator.hasModule houtside
    control_eq := rfl
    latency_le := show initialLatency ≤ maxLatency by decide
    pending_eq := congrArg Simulator.interruptPending houtside
    pointer_eq := (congrArg Simulator.pointer houtside).trans (by rw [Nat.zero_mul]; rfl)
    periodSize_eq := rfl
    tracks :=
      { pointer_lt := show 0 < pointerSpan by decide
        turns_add_pointer := show 0 * pointerSpan + 0 = 0 * _ by rw [Nat.zero_mul, Nat.zero_mul]
        periodSize := model.isLength_periodSize initialLatency
        bufferSize := model.isLength_bufferSize initialLatency }
    frames_eq := (Nat.zero_mul _).symm
    interrupts_eq := rfl }

/-! ## Setting up -/

namespace AtRest

lemma withModule (h : c.AtRest) {m : Tco.Module} {d : Recorded Simulator}
    (houtside : d.device.outside = c.device.device.outside) (hinput : m.input = {})
    (houtput : m.output = {}) : AtRest { c with module := some m, device := d } where
  inStep := h.inStep.congr houtside rfl rfl rfl rfl
  stopped := h.stopped
  idle := ⟨m, rfl, hinput, houtput⟩

lemma setRate (h : c.AtRest) (rate : ClockRate) :
    ∃ b c', c.setRate rate = .ok (b, c') ∧ c'.AtRest ∧ c'.rate = rate ∧ c'.model = c.model := by
  obtain ⟨m, hmodule, hinput, houtput⟩ := h.idle
  unfold Card.setRate
  split
  · next hrate => exact ⟨_, c, rfl, h, hrate, rfl⟩
  · have hwritten : (c.writeControl { c.control with rate }).AtRest :=
      { inStep := h.inStep.writeControl rfl
        stopped := h.stopped
        idle := h.idle }
    have hrunning : ¬ c.running = true := by
      rw [running, h.stopped]
      decide
    have hmodule' : (c.writeControl { c.control with rate }).module = some m := hmodule
    rw [if_neg hrunning]
    simp only [hmodule']
    obtain ⟨sampleRate, cache, heq⟩ :=
      m.exists_followCard_eq (c.writeControl { c.control with rate }).device rate.base
    refine ⟨_, _, rfl, hwritten.withModule ?_ ?_ ?_, rfl, rfl⟩
    · exact Simulator.outside_steps (m.steps_followCard _ rate.base)
    · rw [heq]
      exact hinput
    · rw [heq]
      exact houtput

lemma setPeriodSize (h : c.AtRest) {size latency : Nat}
    (hlatency : c.model.latencyCode? size = some latency) :
    ∃ c', c.setPeriodSize size = .ok c' ∧ c'.AtRest ∧ c'.rate = c.rate
      ∧ c'.position.periodSize = size ∧ c'.model = c.model := by
  have hrunning : ¬ c.running = true := by
    rw [running, h.stopped]
    decide
  have hle : latency ≤ maxLatency :=
    Nat.lt_succ_iff.mp (List.mem_range.mp (List.mem_of_find?_eq_some hlatency))
  have hsize := CardModel.periodSize_of_latencyCode? hlatency
  unfold Card.setPeriodSize
  rw [if_neg hrunning]
  simp only [hlatency]
  refine ⟨_, rfl, ⟨?_, h.stopped, h.idle⟩, rfl, rfl, rfl⟩
  rw [← hsize]
  exact h.inStep.resize hle

lemma setParam (h : c.AtRest) {choice : Choice} {index : Nat} (hindex : index < choice.count) :
    ∃ b c', c.setParam (.choose choice index) = .ok (b, c') ∧ c'.AtRest ∧ c'.rate = c.rate
      ∧ c'.position = c.position ∧ c'.model = c.model := by
  obtain ⟨m, hmodule, hinput, houtput⟩ := h.idle
  have hsome : (Tco.Param.choose? m.config c.rate.base index choice).isSome :=
    Tco.Param.isSome_choose?_iff.mpr hindex
  obtain ⟨config, hconfig⟩ := Option.isSome_iff_exists.mp hsome
  have happly : (Tco.Param.choose choice index).apply m.config c.rate.base = .ok config := by
    rw [Tco.Param.apply, hconfig]
  unfold Card.setParam Tco.Module.setParam
  simp only [hmodule, happly]
  refine ⟨_, _, rfl, h.withModule ?_ ?_ ?_, rfl, rfl, rfl⟩
  · exact Simulator.outside_steps (m.steps_configure c.device config)
  · rw [Tco.Module.configure_eq]
    exact hinput
  · rw [Tco.Module.configure_eq]
    exact houtput

lemma setFeed (h : c.AtRest) (f : Feed) :
    AtRest { c with device := { c.device with device := c.device.device.setFeed f } }
      ∧ (c.device.device.setFeed f).feed = some f := by
  obtain ⟨bank, hshow, -⟩ :=
    Simulator.showFeed_eq (s := { c.device.device with feed := some f }) rfl
  rw [Simulator.setFeed, hshow]
  refine ⟨⟨?_, h.stopped, h.idle⟩, rfl⟩
  exact {
    model_eq := h.inStep.model_eq
    hasModule := h.inStep.hasModule
    control_eq := h.inStep.control_eq
    latency_le := h.inStep.latency_le
    pending_eq := h.inStep.pending_eq
    pointer_eq := h.inStep.pointer_eq
    periodSize_eq := h.inStep.periodSize_eq
    tracks := h.inStep.tracks
    frames_eq := h.inStep.frames_eq
    interrupts_eq := h.inStep.interrupts_eq }

end AtRest

end Card

/-! ## Sessions -/

namespace Session

variable {s : Settings} {latency : Nat} {rate : ClockRate} {timeCode : TimeCode}

/-- The card of the settings is set up, and comes to rest. -/
lemma exists_prepare (hmodel : s.model ≠ .madiFace) (hmodule : s.hasModule = true)
    (hrate : ClockRate.ofHz? s.rate = some rate)
    (hlatency : s.model.latencyCode? s.periodSize = some latency)
    (hinput : s.timeCodeIn = some timeCode) (now : Nat) :
    ∃ card : Card (Recorded Simulator),
      prepare s now = .ok {
          bench := { card, now }
          rate
          periodNanos := s.periodSize * Ltc.nanosPerSecond / rate.hz }
        ∧ card.AtRest ∧ card.rate = rate ∧ card.position.periodSize = s.periodSize
        ∧ card.device.device.feed
          = some ⟨timeCode, s.format.rate, s.format.dropFrame, 0⟩ := by
  have hformat : formatIndex s.format < Choice.format.count := by
    cases s.format <;> decide
  have hattached := Card.atRest_attach hmodel
  obtain ⟨b₁, c₁, hset₁, hrest₁, hrate₁, hmodel₁⟩ := hattached.setRate rate
  obtain ⟨c₂, hset₂, hrest₂, hrate₂, hsize₂, hmodel₂⟩ :=
    hrest₁.setPeriodSize (by rw [hmodel₁, Card.model_attach]; exact hlatency)
  obtain ⟨b₃, c₃, hset₃, hrest₃, hrate₃, hposition₃, -⟩ := hrest₂.setParam hformat
  obtain ⟨b₄, c₄, hset₄, hrest₄, hrate₄, hposition₄, -⟩ :=
    hrest₃.setParam (show cardRateIndex < Choice.sampleRate.count by decide)
  obtain ⟨m, hm, -⟩ := hrest₂.idle
  obtain ⟨hrest, hfeed⟩ :=
    hrest₄.setFeed ⟨timeCode, s.format.rate, s.format.dropFrame, 0⟩
  have hconfigure : configure c₂ s.format = .ok c₄ := by
    unfold configure
    rw [hset₃]
    simp only [bind, Except.bind, Except.mapError, hset₄]
    rfl
  have hprepared : prepareModule s { card := c₂, now }
      = .ok ({ card := c₄, now : Bench }.withRegisters
          (c₄.device.device.setFeed ⟨timeCode, s.format.rate, s.format.dropFrame, 0⟩)) := by
    rw [prepareModule, if_pos (by rw [Card.hasModule, hm]; rfl), hconfigure]
    simp only [feed, hinput, bind, Except.bind]
    rfl
  refine ⟨_, ?_, hrest, ?_, ?_, hfeed⟩
  · rw [prepare, hrate]
    simp only [prepareAt, Bench.powerOn, hmodule, bind, Except.bind, Except.mapError, hset₁, hset₂,
      hprepared]
    rfl
  · exact hrate₄.trans (hrate₃.trans (hrate₂.trans hrate₁))
  · exact (congrArg Position.periodSize (hposition₄.trans hposition₃)).trans hsize₂

/-- The request waits at the output of the module, unless its time code is absent. -/
lemma exists_ask {card : Card (Recorded Simulator)} {m : Tco.Module} (hm : card.module = some m)
    (hidle : m.output = {}) (request : Option Ltc.Request) :
    ∃ m', ask card request = .ok { card with module := some m' } ∧ m'.input = m.input
      ∧ m'.output.pending = request.filter fun r => ¬ r.timeCode.IsAbsent := by
  cases request with
  | none =>
      refine ⟨m, ?_, rfl, ?_⟩
      · rw [← hm]
        rfl
      · rw [hidle]
        rfl
  | some r =>
      refine ⟨m.request r, ?_, rfl, ?_⟩
      · rw [ask, Card.request, hm]
        rfl
      · show (if r.timeCode.IsAbsent then none else some r) = _
        by_cases habsent : r.timeCode.IsAbsent <;> simp [Option.filter, habsent]

end Session

end TimecodeCard
