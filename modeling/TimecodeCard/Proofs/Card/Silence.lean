import Mathlib.Tactic
import TimecodeCard.Proofs.Card.ControlRegister
import TimecodeCard.Proofs.Card.RegisterCodec
import TimecodeCard.Proofs.Card.Runs
import TimecodeCard.Proofs.Tco.Encoding

/-!
# A terminated card is silent

Termination may find a request which waits, one which is written and waits for hardware, and an
output which runs. It has to end all three: whatever is left of them would emit time code at a later
interrupt, when nobody holds the card any more.

The main result is `Card.Attainable.terminate_silences`. What it rests on is that the module is
`Stopped` after termination, that a stopped module writes nothing which could start the output
(`Tco.Access.SilentWrite`), and that only what `Operation.Asks` for more changes that
(`Card.SilentSince.of_effect`).
-/

namespace TimecodeCard

open Tco.Access (held? writeOffset writable)

/-- Whether the operation may have the time code output start again: a request, another
configuration and a restore may, and nothing else. -/
def Operation.Asks : Operation → Prop
  | .request _ | .requestWide _ _ | .setParam _ | .restore _ => True
  | _ => False

variable {δ : Type} [Device δ]

/-! ## Silent quadlets -/

namespace Tco.Access

variable {r r' : Recorded δ} {n : Nat} {q : Quadlet}

/-- Whether the quadlet, under its number in the control bank, is no time code, has neither a set
request nor an offset, and does not let the output run. -/
def Silent : Nat → Quadlet → Prop
  | 0, _ => False
  | 1, q => q.getLsbD 8 = false ∧ q.splitSlice 16 = 0
  | 2, q => q.getLsbD 16 = false
  | _, _ => True

/-- Whether a write, given as offset and quadlet, is silent if it is one to the control bank. -/
def SilentWrite (w : Nat × Quadlet) : Prop :=
  ∀ n, w.1 = writeOffset n → Silent n w.2

lemma silentWrite_of_lt {offset : Nat} (hoffset : offset < 128) (q : Quadlet) :
    SilentWrite (offset, q) := by
  intro n hn
  have hge : 128 ≤ writeOffset n := Nat.le_add_right 128 _
  exact absurd (hn ▸ hoffset) (Nat.not_lt.mpr hge)

lemma silentWrite_iff : SilentWrite (writeOffset n, q) ↔ Silent n q := by
  constructor
  · intro h
    exact h n rfl
  · intro h k hk
    have hnk : n = k := by
      unfold writeOffset at hk
      omega
    rwa [← hnk]

lemma silent_withoutRequest (q1 : Quadlet) : Silent 1 (writable (withoutRequest q1)) :=
  ⟨request_withoutRequest q1, splitSlice_withoutRequest q1⟩

lemma silent_withRun (q2 : Quadlet) : Silent 2 (writable (withRun false q2)) :=
  getLsbD_withRun false q2

/-- The base rate is at another bit than the one which lets the output run. -/
lemma silent_withBaseRate {q2 : Quadlet} (h : q2.getLsbD 16 = false) (base : BaseRate) :
    (withBaseRate base q2).getLsbD 16 = false
      ∧ Silent 2 (writable (withBaseRate base q2)) := by
  have hbit : (withBaseRate base q2).getLsbD 16 = false := by
    rw [withBaseRate, Quadlet.getLsbD_withBit (by decide)]
    exact h
  refine ⟨hbit, ?_⟩
  show (writable (withBaseRate base q2)).getLsbD 16 = false
  rw [getLsbD_writable (by decide), hbit]
  rfl

lemma writesOnly_write (h : r.WritesOnly SilentWrite r')
    (hq : Silent n (writable q)) : r.WritesOnly SilentWrite (write r' n q) :=
  h.write (silentWrite_iff.mpr hq)

end Tco.Access

/-! ## The stopped module -/

namespace Tco.Module

open Access (SilentWrite Silent)

/-- Whether the time code output of the module neither runs nor has a request left. -/
structure Stopped (m : Module) : Prop where
  run_eq : m.config.run = false
  cache_run_eq : m.cache.q2.getLsbD 16 = false
  pending_eq : m.output.pending = none
  armed_eq : m.output.armed = false

lemma stopped_terminate (m : Module) (d : δ) : (m.terminate d).1.Stopped where
  run_eq := rfl
  cache_run_eq := (Quadlet.getLsbD_withBit (by decide)).trans (if_pos rfl)
  pending_eq := rfl
  armed_eq := rfl

lemma writesOnly_terminate (m : Module) (d : Recorded δ) :
    d.WritesOnly SilentWrite (m.terminate d).2 := by
  have hrun : d.WritesOnly SilentWrite (Access.write d 2 (Access.withRun false m.cache.q2)) :=
    Access.writesOnly_write (.of_eq rfl) (Access.silent_withRun m.cache.q2)
  exact Access.writesOnly_write hrun (Access.silent_withoutRequest m.cache.q1)

lemma exists_held_terminate (m : Module) (d : Recorded δ) {n : Nat} (hn : n = 1 ∨ n = 2) :
    ∃ q, held? (m.terminate d).2 n = some q ∧ Silent n q := by
  show ∃ q, held? (Access.write (Access.write d 2 _) 1 _) n = some q ∧ Silent n q
  simp only [Access.held?_write]
  rcases hn with rfl | rfl
  · exact ⟨_, rfl, Access.silent_withoutRequest m.cache.q1⟩
  · exact ⟨_, rfl, Access.silent_withRun m.cache.q2⟩

namespace Stopped

variable {m m' : Module}

lemma congr (h : m.Stopped) (hconfig : m'.config = m.config) (hcache : m'.cache = m.cache)
    (houtput : m'.output = m.output) : m'.Stopped where
  run_eq := (congrArg Config.run hconfig).trans h.run_eq
  cache_run_eq := (congrArg (fun b : Bank => b.q2.getLsbD 16) hcache).trans h.cache_run_eq
  pending_eq := (congrArg Ltc.Output.pending houtput).trans h.pending_eq
  armed_eq := (congrArg Ltc.Output.armed houtput).trans h.armed_eq

/-- Nothing waits and nothing is armed, so an interrupt only reads. -/
lemma period (h : m.Stopped) {d : Recorded δ} {frames periodSize speed now : Nat}
    {p : ModulePeriod (Recorded δ)} (hp : m.period d frames periodSize speed now = .ok p) :
    p.module.Stopped ∧ d.WritesOnly SilentWrite p.device := by
  obtain ⟨o, houtput, rfl⟩ := period_cases hp
  rcases Ltc.Output.period_cases houtput with ⟨-, rfl⟩ | ⟨r, s, hpending, -, -⟩
  · rw [h.armed_eq]
    refine ⟨⟨h.run_eq, h.cache_run_eq, h.pending_eq, rfl⟩, .of_eq ?_⟩
    exact Access.writeLog_trackerPeriod m.input frames speed
  · exact nomatch h.pending_eq.symm.trans hpending

lemma followCard (h : m.Stopped) (d : Recorded δ) (card : BaseFrequency) :
    (m.followCard d card).2.1.Stopped ∧ d.WritesOnly SilentWrite (m.followCard d card).2.2 := by
  unfold Module.followCard
  simp only
  split
  · obtain ⟨hcache, hwritten⟩ := Access.silent_withBaseRate h.cache_run_eq (.ofCard card)
    exact ⟨⟨h.run_eq, hcache, h.pending_eq, h.armed_eq⟩,
      Access.writesOnly_write (.of_eq rfl) hwritten⟩
  · exact ⟨h, .of_eq rfl⟩

end Stopped

end Tco.Module

/-! ## The terminated card -/

namespace Card

open Tco.Access (Silent SilentWrite)

variable {model : CardModel} {c c' : Card (Recorded δ)} {d : Recorded δ} {m : Tco.Module}
  {now : Nat}

/-- Whether the module of the card is stopped and the control bank holds nothing which could start
the output. -/
structure Silenced (c : Card (Recorded δ)) : Prop where
  exists_stopped : ∃ m, c.module = some m ∧ m.Stopped
  exists_held : ∀ n, n = 1 ∨ n = 2 → ∃ q, held? c.device n = some q ∧ Silent n q

/-- Whether the module of the card is stopped, and was since the card had the given device. -/
structure SilentSince (d : Recorded δ) (c : Card (Recorded δ)) : Prop where
  exists_stopped : ∃ m, c.module = some m ∧ m.Stopped
  writes : d.WritesOnly SilentWrite c.device

namespace SilentSince

omit [Device δ] in
lemma stopped (h : SilentSince d c) (hmodule : c.module = some m) : m.Stopped := by
  obtain ⟨m', hm', hstopped⟩ := h.exists_stopped
  obtain rfl := Option.some.inj (hmodule.symm.trans hm')
  exact hstopped

omit [Device δ] in
lemma withModule (h : SilentSince d c) (hm : m.Stopped) {d' : Recorded δ}
    (hd : c.device.WritesOnly SilentWrite d') :
    SilentSince d { c with module := some m, device := d' } where
  exists_stopped := ⟨m, rfl, hm⟩
  writes := h.writes.trans hd

lemma writeControl (h : SilentSince d c) (control : Control) :
    SilentSince d (c.writeControl control) where
  exists_stopped := h.exists_stopped
  writes := h.writes.write (Tco.Access.silentWrite_of_lt (by decide) _)

lemma counted (h : SilentSince d c) (position : Position) :
    SilentSince d (c.counted position) where
  exists_stopped := h.exists_stopped
  writes := (h.writes.trans (.of_eq rfl)).write (Tco.Access.silentWrite_of_lt (by decide) _)

/-- **Step.** Every effect keeps the silence, but for those of the operations which ask for
something else. -/
lemma of_effect (h : SilentSince d c) {op : Operation} {report : Report} (hop : ¬ op.Asks)
    (heffect : Effect c now op c' report) : SilentSince d c' := by
  cases heffect with
  | refuse _ | skip _ | keepRate _ | pass _ => exact h
  | ignore _ => exact ⟨h.exists_stopped, h.writes.trans (.of_eq rfl)⟩
  | count _ _ _ => exact h.counted _
  | serve _ _ hmodule hperiod =>
      obtain ⟨hstopped, hwrites⟩ := (h.stopped hmodule).period hperiod
      exact (h.counted _).withModule hstopped hwrites
  | hear _ hmodule hboundary =>
      obtain ⟨window, rfl⟩ := Tco.Module.exists_of_boundary hboundary
      refine h.withModule ?_ (.of_eq rfl)
      exact (h.stopped hmodule).congr rfl rfl rfl
  | poll hmodule =>
      refine h.withModule ?_ (.of_eq rfl)
      exact (h.stopped hmodule).congr rfl rfl rfl
  | start | stop | writeRate _ _ _ => exact h.writeControl _
  | terminate =>
      exact terminate_keeps h
        (fun m _ => h.withModule (m.stopped_terminate c.device) (m.writesOnly_terminate c.device))
        fun _ hd => hd.writeControl _
  | @resize size latency _ _ =>
      obtain ⟨hstopped, hwrites⟩ := h.writeControl { c.control with latency }
      exact ⟨hstopped, hwrites⟩
  | @followRate rate m _ _ hmodule =>
      obtain ⟨hstopped, hwrites⟩ :=
        (h.stopped hmodule).followCard (c.writeControl { c.control with rate }).device rate.base
      exact (h.writeControl _).withModule hstopped hwrites
  | configure _ _ | request _ | requestWide _ | reset _ | restore _ _ => exact absurd trivial hop

end SilentSince

lemma silenced_terminate (hmodule : c.module = some m) : c.terminate.Silenced := by
  have hcontrol : ∀ d : Card (Recorded δ), d.Silenced → d.stop.Silenced := by
    intro d hd
    refine ⟨hd.exists_stopped, fun n hn => ?_⟩
    obtain ⟨q, hheld, hq⟩ := hd.exists_held n hn
    exact ⟨q, (Tco.Access.held?_control _).trans hheld, hq⟩
  have hmoduleSilenced : c.terminateModule.Silenced := by
    unfold terminateModule
    rw [hmodule]
    exact ⟨⟨_, rfl, m.stopped_terminate c.device⟩, fun n hn => m.exists_held_terminate c.device hn⟩
  unfold terminate
  simp only
  split
  · exact hcontrol _ hmoduleSilenced
  · exact hmoduleSilenced

lemma started_terminate (c : Card δ) : c.terminate.control.started = false := by
  unfold terminate
  simp only
  split
  · rfl
  · next hstopped => exact Bool.eq_false_iff.mpr hstopped

/-- **Termination silences the card.** On every card with the module which operations lead to,
termination leaves neither a request nor the run flag, in the module and in what it has written last
to the control bank, and neither the start nor the interrupts in the control register. From then on
no time code, no set request and no run flag is written by any run of operations among which there
is no request, no other configuration and no restore. -/
theorem Attainable.terminate_silences (h : Attainable model c) (hmodule : c.module = some m)
    (now : Nat) :
    ∃ c', c.perform now .terminate = .ok (c', {})
      ∧ c'.Silenced
      ∧ (∃ q, c'.device.lastWritten? Control.offset = some q ∧ q.getLsbD 0 = false
        ∧ q.getLsbD 5 = false)
      ∧ ∀ events c'', (∀ event ∈ events, ¬ event.2.Asks) → c'.performs? events = .ok c'' →
        c''.Silenced ∧ c'.device.WritesOnly SilentWrite c''.device := by
  have hsilenced : c.terminate.Silenced := silenced_terminate hmodule
  have hattained : Attainable model c.terminate :=
    h.perform (show Operation.RestoresFrom [] .terminate from trivial)
      (show c.perform now .terminate = .ok _ from rfl)
  refine ⟨c.terminate, rfl, hsilenced, ⟨_, hattained.agrees.register_eq, ?_, ?_⟩, ?_⟩
  · rw [(Control.flags_encode _).1, started_terminate]
  · rw [(Control.flags_encode _).2.1, hattained.agrees.enabled_eq, started_terminate]
  · intro events c'' hevents hrun
    have hsince : SilentSince c.terminate.device c'' := by
      refine keeps_of_performs? (fun hevent _ _ _ heffect hd => ?_) hrun
        ⟨hsilenced.exists_stopped, .of_eq rfl⟩
      exact hd.of_effect (hevents _ hevent) heffect
    refine ⟨⟨hsince.exists_stopped, fun n hn => ?_⟩, hsince.writes⟩
    -- What replaces the quadlets which termination wrote is silent as well.
    obtain ⟨q, hheld, hq⟩ := hsilenced.exists_held n hn
    obtain ⟨q', hheld', hq'⟩ :=
      hsince.writes.exists_lastWritten? ⟨q, hheld, Tco.Access.silentWrite_iff.mpr hq⟩
    exact ⟨q', hheld', Tco.Access.silentWrite_iff.mp hq'⟩

/-- A card which is terminated with one request waiting, another one armed and the output running.
A boundary and an audio interrupt which arrive afterwards find nothing to do for the output. -/
theorem Attainable.terminate_silences_armed :
    ∃ (c c' c'' : Card (Recorded Scripted)) (m : Tco.Module),
      Attainable .aio c ∧ c.module = some m ∧ c.running = true
        ∧ m.output.armed = true ∧ m.output.pending.isSome = true ∧ m.config.run = true
        ∧ c.perform 0 .terminate = .ok (c', {}) ∧ c'.Silenced
        ∧ c'.performs? [(1, .midi [0xf1, 0x00]), (2, .interrupt), (3, .poll), (4, .terminate)]
          = .ok c''
        ∧ c''.interrupts = 2 ∧ c''.Silenced ∧ c'.device.WritesOnly SilentWrite c''.device := by
  have hattached : Attainable .aio
      (Card.attach .aio (⟨⟨[0, 8, 0, 0, 0, 0, 1, 8, 1, 8]⟩, [], []⟩ : Recorded Scripted)) :=
    .attach _ _
  have hstarted := hattached.perform (show Operation.RestoresFrom [] .start from trivial)
    (show Card.perform _ 0 _ = .ok _ from rfl)
  have hrequested := hstarted.perform
    (show Operation.RestoresFrom [] (.request ⟨⟨0⟩, Ltc.Request.atOnce⟩) from trivial)
    (show Card.perform _ 0 _ = .ok _ from rfl)
  have hserved := hrequested.perform (show Operation.RestoresFrom [] .interrupt from trivial)
    (show Card.perform _ 0 _ = .ok _ from rfl)
  have hwaiting := hserved.perform
    (show Operation.RestoresFrom [] (.request ⟨⟨0⟩, Ltc.Request.atOnce⟩) from trivial)
    (show Card.perform _ 0 _ = .ok _ from rfl)
  obtain ⟨c', hterminated, hsilenced, -, hlater⟩ := terminate_silences hwaiting rfl 0
  obtain ⟨rfl, -⟩ := Prod.mk.inj (Except.ok.inj hterminated)
  have hevents : ∀ event ∈
      [(1, .midi [0xf1, 0x00]), (2, .interrupt), (3, .poll), (4, Operation.terminate)],
      ¬ event.2.Asks := by
    simp [Operation.Asks]
  obtain ⟨hsilenced', hwrites⟩ := hlater _ _ hevents (show Card.performs? _ _ = .ok _ from rfl)
  exact ⟨_, _, _, _, hwaiting, rfl, rfl, rfl, rfl, rfl, hterminated, hsilenced, rfl, rfl,
    hsilenced', hwrites⟩

end Card

end TimecodeCard
