import Mathlib.Tactic
import TimecodeCard.Simulation.Bench
import TimecodeCard.Proofs.Card.Completion
import TimecodeCard.Proofs.Card.Lengths
import TimecodeCard.Proofs.Simulation.Registers

/-!
# A card in step with simulated registers

`Card.InStep` says that a card and the registers below it agree: on the model, on what the card
has set, and on the number of periods, of which the registers may have moved by one more than the
card has served. Moving the registers of a running card leads there (`Card.InStep.advance`) and
serving the interrupt leads back (`Card.InStep.of_interrupt`). The pointer reaches the card in
units of 16 frames and modulo its span, yet the frames are those of all periods, because a period
is a power of two and shorter than a turn.
-/

namespace TimecodeCard

/-! ## The card and the registers -/

namespace Card

/-- Whether the card and the registers agree, which have moved by a number of periods. The card has
served so many of them. -/
structure InStep (c : Card (Recorded Simulator)) (served moved : Nat) : Prop where
  model_eq : c.device.device.model = c.model
  hasModule : c.device.device.hasModule = true
  control_eq : c.device.device.control = c.control.encode
  latency_le : c.control.latency ≤ maxLatency
  pending_eq : c.device.device.interruptPending = decide (served ≠ moved)
  pointer_eq : c.device.device.pointer = moved * c.position.periodSize % pointerSpan
  periodSize_eq : c.position.periodSize = c.model.periodSize c.control.latency
  tracks : c.position.Tracks (served * c.position.periodSize)
  frames_eq : c.position.frames = served * c.position.periodSize
  interrupts_eq : c.interrupts = served

variable {c c' : Card (Recorded Simulator)} {served moved n : Nat} {f : Feed} {m : Tco.Module}

namespace InStep

lemma congr (h : c.InStep served moved)
    (houtside : c'.device.device.outside = c.device.device.outside) (hmodel : c'.model = c.model)
    (hcontrol : c'.control = c.control) (hposition : c'.position = c.position)
    (hinterrupts : c'.interrupts = c.interrupts) : c'.InStep served moved where
  model_eq := (congrArg Simulator.model houtside).trans (h.model_eq.trans hmodel.symm)
  hasModule := (congrArg Simulator.hasModule houtside).trans h.hasModule
  control_eq := (congrArg Simulator.control houtside).trans (hcontrol ▸ h.control_eq)
  latency_le := hcontrol ▸ h.latency_le
  pending_eq := (congrArg Simulator.interruptPending houtside).trans h.pending_eq
  pointer_eq := (congrArg Simulator.pointer houtside).trans (hposition ▸ h.pointer_eq)
  periodSize_eq := by rw [hposition, hmodel, hcontrol, h.periodSize_eq]
  tracks := hposition ▸ h.tracks
  frames_eq := hposition ▸ h.frames_eq
  interrupts_eq := hinterrupts.trans h.interrupts_eq

/-- Another latency comes with another length of the period. -/
lemma writeControl (h : c.InStep served moved) {control : Control}
    (hlatency : control.latency = c.control.latency) :
    (c.writeControl control).InStep served moved where
  model_eq := h.model_eq
  hasModule := h.hasModule
  control_eq := rfl
  latency_le := hlatency ▸ h.latency_le
  pending_eq := h.pending_eq
  pointer_eq := h.pointer_eq
  periodSize_eq := by
    show c.position.periodSize = c.model.periodSize control.latency
    rw [hlatency, h.periodSize_eq]
  tracks := h.tracks
  frames_eq := h.frames_eq
  interrupts_eq := h.interrupts_eq

/-- Before the first period, any length of the period is in step. -/
lemma resize (h : c.InStep 0 0) {latency : Nat} (hlatency : latency ≤ maxLatency) :
    ((c.writeControl { c.control with latency }).resize (c.model.periodSize latency)).InStep 0 0
    where
  model_eq := h.model_eq
  hasModule := h.hasModule
  control_eq := rfl
  latency_le := hlatency
  pending_eq := h.pending_eq
  pointer_eq := by
    rw [Nat.zero_mul]
    exact h.pointer_eq.trans (by rw [Nat.zero_mul])
  periodSize_eq := rfl
  tracks := by
    have htracks := h.tracks
    rw [Nat.zero_mul] at htracks ⊢
    exact htracks.resize (c.model.isLength_periodSize latency) (c.model.isLength_bufferSize latency)
  frames_eq := by
    rw [Nat.zero_mul]
    exact h.frames_eq.trans (Nat.zero_mul _)
  interrupts_eq := h.interrupts_eq

/-- **Advance.** The registers of a running card move ahead by a period, and show the feed where
it has come to. -/
lemma advance {b : Bench} {frameSize : Nat} (h : b.card.InStep n n)
    (hstarted : b.card.control.started = true)
    (henabled : b.card.control.interruptEnabled = true) (hfeed : b.registers.feed = some f)
    (hframeSize : f.rate.frameSize (Tco.BaseRate.ofCard b.card.rate.base).hz = frameSize) :
    ∃ s : Simulator,
      b.advance
          = ((f.advance frameSize (b.card.position.periodSize / b.card.rate.speed.factor)).1,
            b.withRegisters s)
        ∧ (b.withRegisters s).card.InStep n (n + 1)
        ∧ s.feed
          = some (f.advance frameSize (b.card.position.periodSize / b.card.rate.speed.factor)).2
        ∧ s.Shows
          (f.advance frameSize (b.card.position.periodSize / b.card.rate.speed.factor)).2 := by
  have hperiodSize : b.registers.model.periodSize b.card.control.latency
      = b.card.position.periodSize := by
    rw [h.periodSize_eq, ← h.model_eq]
    rfl
  have hadvance := Simulator.advance_eq h.control_eq h.latency_le hstarted henabled hfeed
    hperiodSize hframeSize
  obtain ⟨bank, hshow, hshows⟩ := Simulator.showFeed_eq
    (s := { b.registers with
      pointer := (b.registers.pointer + b.card.position.periodSize) % pointerSpan
      interruptPending := true
      feed := some (f.advance frameSize
        (b.card.position.periodSize / b.card.rate.speed.factor)).2 }) rfl
  refine ⟨_, by rw [Bench.advance, Bench.registers, hadvance]; rfl, ?_, ?_, hshows⟩
  · rw [hshow]
    exact {
      model_eq := h.model_eq
      hasModule := h.hasModule
      control_eq := h.control_eq
      latency_le := h.latency_le
      pending_eq := (decide_eq_true (Nat.succ_ne_self n).symm).symm
      pointer_eq := by
        show (b.registers.pointer + _) % pointerSpan = _
        rw [Bench.registers, h.pointer_eq, Nat.mod_add_mod, Nat.succ_mul]
        rfl
      periodSize_eq := h.periodSize_eq
      tracks := h.tracks
      frames_eq := h.frames_eq
      interrupts_eq := h.interrupts_eq }
  · rw [hshow]

lemma exists_update (h : c.InStep n (n + 1)) (hbound : (n + 1) * c.position.periodSize < 2 ^ 64) :
    ∃ q, c.position.update c.device.device.cardStatus.hardwarePointer = .ok q
      ∧ q.Tracks ((n + 1) * q.periodSize) ∧ q.periodSize = c.position.periodSize
      ∧ q.frames = (n + 1) * q.periodSize := by
  have hperiodSize := c.model.periodSize_bounds c.control.latency
  rw [← h.periodSize_eq] at hperiodSize
  have hpointer : c.device.device.cardStatus.hardwarePointer
      = (n + 1) * c.position.periodSize % pointerSpan := by
    have hdvd : 16 ∣ c.position.periodSize := by
      rw [h.periodSize_eq]
      exact dvd_trans (by decide) (c.model.dvd_periodSize _)
    rw [Simulator.hardwarePointer_cardStatus, h.pointer_eq]
    · rw [h.pointer_eq]
      exact Nat.mod_lt _ (by decide)
    · rw [h.pointer_eq]
      exact (Nat.dvd_mod_iff (by decide)).mpr (hdvd.mul_left _)
  obtain ⟨q, hupdate, hq, hsize, -, hframes⟩ := h.tracks.update
    (Nat.mul_le_mul_right _ (Nat.le_succ n)) (by
      rw [Nat.succ_mul]
      exact Nat.add_lt_add_left (lt_of_le_of_lt hperiodSize.2 (by decide)) _) hbound
  refine ⟨q, by rw [hpointer, hupdate], hsize ▸ hq, hsize, ?_⟩
  rw [hframes, hsize, Nat.mul_div_cancel _ hperiodSize.1]

/-- **Interrupt.** A card which serves the interrupt is up with its registers. Its module has read
the input, and nothing waits at the output. -/
lemma of_interrupt {now : Nat} {i : Interrupt (Recorded Simulator)} (h : c.InStep n (n + 1))
    (hbound : (n + 1) * c.position.periodSize < 2 ^ 64) (hmodule : c.module = some m)
    (hok : c.interrupt now = .ok i) :
    ∃ (m' : Tco.Module) (d : Recorded Simulator),
      i.card.InStep (n + 1) (n + 1) ∧ i.card.control = c.control
        ∧ i.card.position.periodSize = c.position.periodSize
        ∧ i.card.device.device.feed = c.device.device.feed
        ∧ i.card.module = some m' ∧ m'.output.pending = none
        ∧ d.device = { c.device.device with interruptPending := false }
        ∧ m'.input = (m.input.period d ((n + 1) * c.position.periodSize)
          c.rate.speed.factor).1 := by
  obtain ⟨hstatus, -⟩ := Simulator.read_cardStatus c.device
  have hpending : (CardStatus.read c.device).1.interruptPending = true := by
    rw [hstatus]
    exact h.pending_eq.trans (decide_eq_true (Nat.succ_ne_self n).symm)
  obtain ⟨q, hupdate, hq, hsize, hframes⟩ := h.exists_update hbound
  obtain ⟨q', p, hupdate', hperiod, hcard, -⟩ :=
    (interrupt_effect hok).exists_period hpending hmodule
  rw [hstatus] at hupdate'
  obtain rfl := Except.ok.inj (hupdate.symm.trans hupdate')
  rw [hcard]
  obtain ⟨o, houtput, hp⟩ := Tco.Module.period_cases hperiod
  have hserved : (c.counted q).InStep (n + 1) (n + 1) :=
    { model_eq := h.model_eq
      hasModule := h.hasModule
      control_eq := h.control_eq
      latency_le := h.latency_le
      pending_eq := (decide_eq_false (not_not_intro rfl)).symm
      pointer_eq := by
        show c.device.device.pointer = (n + 1) * q.periodSize % pointerSpan
        rw [hsize, h.pointer_eq]
      periodSize_eq := hsize.trans h.periodSize_eq
      tracks := hq
      frames_eq := hframes
      interrupts_eq := congrArg (· + 1) h.interrupts_eq }
  have houtside : p.device.device.outside
      = (CardStatus.confirm (CardStatus.read c.device).2).device.outside :=
    Simulator.outside_steps (Tco.Module.steps_period hperiod)
  refine ⟨p.module, CardStatus.confirm (CardStatus.read c.device).2,
    hserved.congr houtside rfl rfl rfl rfl, rfl, hsize,
    (congrArg Simulator.feed houtside).trans rfl, rfl, ?_, rfl, ?_⟩
  · rw [hp]
    exact Ltc.Output.pending_period houtput
  · rw [hp, ← hsize, ← hframes]
    rfl

end InStep

end Card

end TimecodeCard
