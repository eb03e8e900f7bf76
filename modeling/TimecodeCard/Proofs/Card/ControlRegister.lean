import Mathlib.Tactic
import TimecodeCard.Proofs.Card.Effects
import TimecodeCard.Proofs.Card.Lengths
import TimecodeCard.Proofs.Tco.Accesses

/-!
# Control parameters, register and lengths agree

The latency of a card is kept in its control parameters, stands in the control register, and decides
about the lengths of period and buffer in its position. Starting, stopping, settings and restores
change these one by one, and a restore may even take what a card of another model has saved
(`Card.Attainable`). `Card.Agrees` is the invariant, and every effect of an operation keeps it
(`Card.Agrees.of_effect`). Most of it holds even if a restore takes parameters which no card has
saved (`Card.InForce.of_effect`).

The main result is `Card.Attainable.control_agrees`, with the lengths which a stopped card takes.
-/

namespace TimecodeCard.Card

variable {δ : Type} [Device δ]

/-- The cards of the model which operations lead to, where a restore takes what any card has saved,
of whatever model. -/
inductive Attainable : CardModel → Card δ → Prop
  | attach (model : CardModel) (d : δ) : Attainable model (Card.attach model d)
  | perform {model : CardModel} {c c' : Card δ} {now : Nat} {op : Operation} {report : Report} :
    Attainable model c → op.RestoresFrom [] → c.perform now op = .ok (c', report) →
      Attainable model c'
  | restore {model model' : CardModel} {c donor : Card δ} :
    Attainable model c → Attainable model' donor → Attainable model (c.restore donor.save)

/-- Whether the control parameters are those of the register and of the position. -/
structure Agrees (c : Card (Recorded δ)) : Prop where
  register_eq : c.device.lastWritten? Control.offset = some c.control.encode
  periodSize_eq : c.position.periodSize = c.model.periodSize c.control.latency
  bufferSize_eq : c.position.bufferSize = c.model.bufferSize c.position.periodSize
  enabled_eq : c.control.interruptEnabled = c.control.started

/-- Whether the control parameters, whatever they are, have been written to the register, and the
position has the lengths for them. -/
structure InForce (c : Card (Recorded δ)) : Prop where
  register_eq : c.device.lastWritten? Control.offset = some c.control.encode
  periodSize_eq : c.position.periodSize = c.model.periodSize c.control.latency
  bufferSize_eq : c.position.bufferSize = c.model.bufferSize c.position.periodSize

variable {model : CardModel} {c c' : Card (Recorded δ)} {control : Control} {now : Nat}
  {op : Operation} {report : Report}

namespace InForce

/-! ## The control register -/

lemma lastWritten?_write (control : Control) (d : Recorded δ) :
    (control.write d).lastWritten? Control.offset = some control.encode := by
  rw [Control.write, Recorded.lastWritten?_write, if_pos rfl]

lemma writeControl (h : c.InForce) (hlatency : control.latency = c.control.latency) :
    (c.writeControl control).InForce where
  register_eq := lastWritten?_write control c.device
  periodSize_eq := h.periodSize_eq.trans (congrArg c.model.periodSize hlatency.symm)
  bufferSize_eq := h.bufferSize_eq

lemma rewritten (c : Card (Recorded δ)) (control : Control) : (c.rewritten control).InForce where
  register_eq := lastWritten?_write control c.device
  periodSize_eq := rfl
  bufferSize_eq := rfl

/-! ## Everything else -/

lemma withModule (h : c.InForce) (m : Option Tco.Module) {d : Recorded δ}
    (hsteps : Tco.Access.Steps c.device d) : InForce { c with module := m, device := d } where
  register_eq := (hsteps.lastWritten?_eq (by decide)).trans h.register_eq
  periodSize_eq := h.periodSize_eq
  bufferSize_eq := h.bufferSize_eq

lemma counted (h : c.InForce) {position : Position} {pointer : Nat}
    (hposition : c.position.update pointer = .ok position) : (c.counted position).InForce := by
  have hconfirm : (CardStatus.confirm (CardStatus.read c.device).2).lastWritten? Control.offset
      = c.device.lastWritten? Control.offset := by
    rw [CardStatus.confirm, Recorded.lastWritten?_write, if_neg (by decide)]
    rfl
  obtain ⟨turns, aligned, rfl⟩ := Position.exists_of_update hposition
  exact ⟨hconfirm.trans h.register_eq, h.periodSize_eq, h.bufferSize_eq⟩

/-- **Step.** Every effect leaves control parameters in force, any restore included. -/
lemma of_effect (h : c.InForce) (heffect : Effect c now op c' report) : c'.InForce := by
  cases heffect with
  | refuse _ | skip _ | keepRate _ | pass _ => exact h
  | ignore _ => exact ⟨h.register_eq, h.periodSize_eq, h.bufferSize_eq⟩
  | count _ hposition _ => exact h.counted hposition
  | serve _ hposition _ hperiod =>
      exact (h.counted hposition).withModule _ (Tco.Module.steps_period hperiod)
  | hear _ _ _ | request _ | requestWide _ => exact h.withModule _ .refl
  | @poll m _ => exact h.withModule _ (m.steps_poll c.device)
  | start | stop | writeRate _ _ _ => exact h.writeControl rfl
  | terminate =>
      exact terminate_keeps h (fun m _ => h.withModule _ (m.steps_terminate c.device))
        fun _ hd => hd.writeControl rfl
  | resize _ hlatency =>
      rw [← CardModel.periodSize_of_latencyCode? hlatency]
      exact rewritten c _
  | @followRate rate m _ _ _ =>
      have hwritten : (c.writeControl { c.control with rate }).InForce := h.writeControl rfl
      exact hwritten.withModule _ (m.steps_followCard _ rate.base)
  | @configure p m config _ _ => exact h.withModule _ (m.steps_configure c.device config)
  | @reset s _ => exact rewritten c s.control
  | @restore s m t _ _ => exact (rewritten c s.control).withModule _ (m.steps_restore _ t)

lemma attach (model : CardModel) (d : Recorded δ) : (Card.attach model d).InForce := by
  unfold Card.attach
  simp only
  split
  · exact ⟨lastWritten?_write _ _, rfl, rfl⟩
  · exact ⟨lastWritten?_write _ _, rfl, rfl⟩

end InForce

/-! ## Interrupts of the engine -/

/-- Every effect keeps interrupts enabled exactly if the engine is started, provided that a restore
takes such parameters. -/
lemma enabled_of_effect (henabled : c.control.interruptEnabled = c.control.started)
    (hrestores : ∀ s, op = .restore s → s.control.interruptEnabled = s.control.started)
    (heffect : Effect c now op c' report) :
    c'.control.interruptEnabled = c'.control.started := by
  cases heffect with
  | terminate =>
      exact terminate_keeps
        (P := fun d : Card (Recorded δ) => d.control.interruptEnabled = d.control.started)
        henabled (fun _ _ => henabled) fun _ _ => rfl
  | start | stop => rfl
  | reset _ | restore _ _ => exact hrestores _ rfl
  | _ => exact henabled

/-- **Step.** Every effect keeps the agreement, provided that a restore takes parameters which
enable interrupts exactly if the engine is started. -/
lemma Agrees.of_effect (h : c.Agrees)
    (hrestores : ∀ s, op = .restore s → s.control.interruptEnabled = s.control.started)
    (heffect : Effect c now op c' report) : c'.Agrees := by
  obtain ⟨hregister, hperiod, hbuffer, henabled⟩ := h
  have hforce : c'.InForce := InForce.of_effect ⟨hregister, hperiod, hbuffer⟩ heffect
  exact ⟨hforce.register_eq, hforce.periodSize_eq, hforce.bufferSize_eq,
    enabled_of_effect henabled hrestores heffect⟩

/-! ## Attainable cards -/

lemma agrees_attach (model : CardModel) (d : Recorded δ) : (Card.attach model d).Agrees := by
  obtain ⟨hregister, hperiod, hbuffer⟩ := InForce.attach model d
  refine ⟨hregister, hperiod, hbuffer, ?_⟩
  unfold Card.attach
  simp only
  split <;> rfl

/-- **Run.** On every attainable card the control parameters agree with register and position. -/
lemma Attainable.agrees (h : Attainable model c) : c.Agrees := by
  induction h with
  | attach model d => exact agrees_attach model d
  | perform _ hrestores hperform ih =>
      refine ih.of_effect (fun s hs => ?_) (perform_effect hperform)
      rw [hs] at hrestores
      exact nomatch hrestores
  | @restore _ _ c donor _ _ ih ihdonor =>
      refine ih.of_effect (fun s hs => ?_) (restore_effect c 0 donor.save)
      obtain rfl := Operation.restore.inj hs
      exact ihdonor.enabled_eq

lemma Attainable.model_eq (h : Attainable model c) : c.model = model := by
  induction h with
  | attach model d => exact model_attach model d
  | perform _ _ hperform ih => rw [(perform_effect hperform).model_eq, ih]
  | @restore _ _ c donor _ _ ih _ =>
      rw [(restore_effect c 0 donor.save).model_eq, ih]

lemma exists_setPeriodSize_iff (hstopped : c.running = false) (size : Nat) :
    (∃ c', c.setPeriodSize size = .ok c')
      ↔ ∃ latency, c.model.latencyCode? size = some latency := by
  unfold Card.setPeriodSize
  rw [if_neg (Bool.eq_false_iff.mp hstopped)]
  cases c.model.latencyCode? size with
  | none =>
      constructor
      · rintro ⟨c', h⟩
        exact nomatch h
      · rintro ⟨latency, h⟩
        exact nomatch h
  | some latency => exact iff_of_true ⟨_, rfl⟩ ⟨_, rfl⟩

/-- The largest code stands for the length which only some models have. -/
lemma eq_periodSize_maxLatency_iff (model : CardModel) (size : Nat) :
    size = model.periodSize maxLatency
      ↔ size = 32 ∧ model ∈ [.rayDat, .aio, .aioPro]
        ∨ size = 8192 ∧ model ∉ [.rayDat, .aio, .aioPro] := by
  cases model <;> simp [CardModel.periodSize, CardModel.hasFixedBuffer]

/-- **Control parameters, register and lengths agree.** On every card which operations lead to, the
control register was last written with the control parameters, the period and the buffer have the
lengths for their latency, which are powers of two up to 16384, and interrupts are enabled exactly
if the engine is started. If it is not, the card takes the lengths from 64 to 4096 and the one which
the largest latency stands for on its model, and no other. -/
theorem Attainable.control_agrees (h : Attainable model c) :
    c.model = model
      ∧ c.device.lastWritten? Control.offset = some c.control.encode
      ∧ c.position.periodSize = model.periodSize c.control.latency
      ∧ c.position.bufferSize = model.bufferSize (model.periodSize c.control.latency)
      ∧ Position.IsLength c.position.periodSize
      ∧ Position.IsLength c.position.bufferSize
      ∧ c.control.interruptEnabled = c.control.started
      ∧ (c.running = false → ∀ size, (∃ c', c.setPeriodSize size = .ok c')
        ↔ (∃ k, 6 ≤ k ∧ k ≤ 12 ∧ size = 2 ^ k)
          ∨ size = 32 ∧ model ∈ [.rayDat, .aio, .aioPro]
          ∨ size = 8192 ∧ model ∉ [.rayDat, .aio, .aioPro]) := by
  obtain ⟨hregister, hperiod, hbuffer, henabled⟩ := h.agrees
  obtain rfl := h.model_eq
  rw [hperiod] at hbuffer
  refine ⟨rfl, hregister, hperiod, hbuffer, ?_, ?_, henabled, fun hstopped size => ?_⟩
  · rw [hperiod]
    exact c.model.isLength_periodSize _
  · rw [hbuffer]
    exact c.model.isLength_bufferSize _
  · rw [exists_setPeriodSize_iff hstopped, CardModel.exists_latencyCode?_iff,
      eq_periodSize_maxLatency_iff]

/-- An AIO card which is stopped after it has taken over what a running MADI card has saved, with
the longest period. The latency stands for the shortest one here. -/
theorem Attainable.control_agrees_other_model :
    ∃ c donor : Card (Recorded Scripted), Attainable .madi donor ∧ Attainable .aio c
      ∧ donor.running = true ∧ donor.position.periodSize = 8192
      ∧ c.control = { donor.control with started := false, interruptEnabled := false }
      ∧ c.device.lastWritten? Control.offset = some c.control.encode
      ∧ c.position.periodSize = 32 ∧ c.position.bufferSize = 16384
      ∧ (∃ c', c.setPeriodSize 32 = .ok c') ∧ ¬ ∃ c', c.setPeriodSize 8192 = .ok c' := by
  have hdonor : Attainable .madi (Card.attach .madi (⟨⟨[]⟩, [], []⟩ : Recorded Scripted)) :=
    .attach _ _
  have hresized := hdonor.perform
    (show Operation.RestoresFrom [] (.setPeriodSize 8192) from trivial)
    (show Card.perform _ 0 _ = .ok _ from rfl)
  have hstarted := hresized.perform (show Operation.RestoresFrom [] .start from trivial)
    (show Card.perform _ 0 _ = .ok _ from rfl)
  have hattached : Attainable .aio (Card.attach .aio (⟨⟨[0, 8]⟩, [], []⟩ : Recorded Scripted)) :=
    .attach _ _
  have hstopped := (hattached.restore hstarted).perform
    (show Operation.RestoresFrom [] .stop from trivial)
    (show Card.perform _ 0 _ = .ok _ from rfl)
  obtain ⟨-, hregister, hperiod, hbuffer, -, -, -, hsizes⟩ := control_agrees hstopped
  refine ⟨_, _, hstarted, hstopped, rfl, rfl, rfl, hregister, hperiod, hbuffer,
    (hsizes rfl 32).mpr (.inr (.inl ⟨rfl, by decide⟩)), fun hlarge => ?_⟩
  rcases (hsizes rfl 8192).mp hlarge with ⟨k, -, hk, heq⟩ | ⟨heq, -⟩ | ⟨-, hother⟩
  · have hle : 2 ^ k ≤ 2 ^ 12 := Nat.pow_le_pow_right (by decide) hk
    omega
  · exact absurd heq (by decide)
  · exact absurd hother (by decide)

end TimecodeCard.Card
