import Mathlib.Tactic
import TimecodeCard.Proofs.Card.ControlRegister
import TimecodeCard.Proofs.Card.Runs

/-!
# A card resumes what it saved

What is saved of a card are its control parameters and, of the module, the configuration with the
cached control bank. The lengths of period and buffer are not saved, so a resumed card has those of
the saved one only because they follow from the latency (`Card.InForce`), and because a card is of
the same model and has the module or not for good (`Card.model_performs?`).

`Card.Resumed` lists what comes from the saved card, and what stays with the card it is restored to.
The main result is `Card.save_resumes`.
-/

namespace TimecodeCard.Card

open Tco.Access (held? writable)

variable {δ : Type} [Device δ] {model : CardModel} {c c' : Card (Recorded δ)}
  {before events : List (Nat × Operation)}

/-- Whether a card is the other one with the parameters of the saved card, in the library and in
hardware. -/
structure Resumed (saved other c : Card (Recorded δ)) : Prop where
  model_eq : c.model = saved.model
  control_eq : c.control = saved.control
  /-- The lengths are the saved ones, and the stream is where it was. -/
  position_eq : c.position = { other.position with
    periodSize := saved.position.periodSize
    bufferSize := saved.position.bufferSize }
  interrupts_eq : c.interrupts = other.interrupts
  register_eq :
    c.device.lastWritten? Control.offset = saved.device.lastWritten? Control.offset
  module_eq_none : saved.module = none → other.module = none ∧ c.module = none
  /-- Input, output, status and time are those of the other module. -/
  exists_module : ∀ m, saved.module = some m → ∃ m', other.module = some m'
    ∧ c.module = some { m' with config := m.config, cache := m.cache }
    ∧ ∀ n ≤ 3, held? c.device n = some (writable (m.cache.get n))
  save_eq : c.save = saved.save

lemma inForce_of_performs? {d : Recorded δ} (h : (Card.attach model d).performs? before = .ok c) :
    c.InForce := by
  refine keeps_of_performs? ?_ h (InForce.attach model d)
  intro _ _ _ _ _ heffect hforce
  exact hforce.of_effect heffect

/-- The lengths which a card gets for the control parameters of another card of its model are the
lengths of that card. -/
lemma position_rewritten (hforce : c.InForce) (hmodel : c'.model = c.model) :
    (c'.rewritten c.control).position = { c'.position with
      periodSize := c.position.periodSize
      bufferSize := c.position.bufferSize } := by
  show c'.position.resize (c'.model.periodSize c.control.latency)
    (c'.model.bufferSize (c'.model.periodSize c.control.latency)) = _
  rw [hforce.bufferSize_eq, hforce.periodSize_eq, hmodel]
  rfl

/-- **Restore.** A card whose control parameters are in force is resumed by any card of its model
which has the module exactly if it has. -/
lemma resumed_of_inForce (hforce : c.InForce) (hmodel : c'.model = c.model)
    (hpresent : c'.hasModule = c.hasModule) : Resumed c c' (c'.restore c.save) := by
  have hposition := position_rewritten hforce hmodel
  have hregister : (c'.rewritten c.control).device.lastWritten? Control.offset
      = c.device.lastWritten? Control.offset :=
    (InForce.lastWritten?_write c.control c'.device).trans hforce.register_eq.symm
  have habsent : c'.module = none ↔ c.module = none := by
    rw [← Option.not_isSome_iff_eq_none, ← Option.not_isSome_iff_eq_none]
    exact not_congr (Bool.eq_iff_iff.mp hpresent)
  have heffect := restore_effect c' 0 c.save
  generalize c'.restore c.save = r at heffect ⊢
  cases heffect with
  | reset hmissing =>
      have hnone : c.module = none := by
        rcases hmissing with hother | hsaved
        · exact habsent.mp hother
        · exact Option.map_eq_none_iff.mp hsaved
      have hnone' := habsent.mpr hnone
      refine ⟨hmodel, rfl, hposition, rfl, hregister, fun _ => ⟨hnone', hnone'⟩, ?_, ?_⟩
      · intro m hm
        exact nomatch hnone.symm.trans hm
      · show SavedCard.mk c.control (c'.module.map Tco.Module.save) = c.save
        rw [save, hnone, hnone']
  | @restore _ m' t hmodule hsaved =>
      obtain ⟨m, hm, rfl⟩ := Option.map_eq_some_iff.mp hsaved
      refine ⟨hmodel, rfl, hposition, rfl, ?_, ?_, ?_, ?_⟩
      · exact ((m'.steps_restore _ m.save).lastWritten?_eq (by decide)).trans hregister
      · intro hnone
        exact nomatch hm.symm.trans hnone
      · intro m₀ hm₀
        obtain rfl := Option.some.inj (hm.symm.trans hm₀)
        exact ⟨m', hmodule, rfl, fun n hn => Tco.Access.held?_writeBank m.cache hn⟩
      · show SavedCard.mk c.control (some m.save) = c.save
        rw [save, hm]
        rfl

/-- **A card resumes what it saved.** Whatever has happened to a card since its parameters were
saved, a restore of them always succeeds. It gives the card the saved control parameters, lengths,
configuration and cached control bank, writes the control register and the control bank for them,
and leaves everything else as it is. What is saved next is the same again. -/
theorem save_resumes {d : Recorded δ} (hsaved : (Card.attach model d).performs? before = .ok c)
    (hlater : c.performs? events = .ok c') (now : Nat) :
    ∃ r, c'.perform now (.restore c.save) = .ok (r, {}) ∧ Resumed c c' r := by
  obtain ⟨hmodel, hmodule⟩ := model_performs? hlater
  exact ⟨_, rfl, resumed_of_inForce (inForce_of_performs? hsaved) hmodel hmodule⟩

/-- A card which follows the rate of the card is saved while it is stopped, and resumed while it
runs at another rate, with a shorter period and a request armed. The request stays armed. -/
theorem save_resumes_armed :
    ∃ c c' r : Card (Recorded Scripted),
      (Card.attach .aio ⟨⟨[0, 8, 0, 0, 0, 0, 1, 8]⟩, [], []⟩).performs?
          [(0, .setParam (.choose .sampleRate 2)), (0, .setPeriodSize 1024)] = .ok c
        ∧ c.performs? [(1, .setRate ⟨.hz48000, .double⟩), (2, .setPeriodSize 64), (3, .start),
          (4, .request ⟨⟨0⟩, Ltc.Request.atOnce⟩), (5, .interrupt)] = .ok c'
        ∧ c'.running = true ∧ c'.position.periodSize = 64
        ∧ c'.module.map (·.config.sampleRate) = some (.ofCard .hz48000)
        ∧ c'.perform 6 (.restore c.save) = .ok (r, {}) ∧ Resumed c c' r
        ∧ r.running = false ∧ r.position.periodSize = 1024
        ∧ r.module.map (·.config.sampleRate) = some (.ofCard .hz44100)
        ∧ r.module.map (·.output.armed) = some true := by
  obtain ⟨r, hrestored, hresumed⟩ := save_resumes
    (show (Card.attach .aio (⟨⟨[0, 8, 0, 0, 0, 0, 1, 8]⟩, [], []⟩ : Recorded Scripted)).performs?
      [(0, .setParam (.choose .sampleRate 2)), (0, .setPeriodSize 1024)] = .ok _ from rfl)
    (show Card.performs? _ [(1, .setRate ⟨.hz48000, .double⟩), (2, .setPeriodSize 64), (3, .start),
      (4, .request ⟨⟨0⟩, Ltc.Request.atOnce⟩), (5, .interrupt)] = .ok _ from rfl) 6
  obtain ⟨rfl, -⟩ := Prod.mk.inj (Except.ok.inj hrestored)
  exact ⟨_, _, _, rfl, rfl, rfl, rfl, rfl, hrestored, hresumed, rfl, rfl, rfl, rfl⟩

end TimecodeCard.Card
