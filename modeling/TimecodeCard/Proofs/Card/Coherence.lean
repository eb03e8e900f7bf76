import Mathlib.Tactic
import TimecodeCard.Proofs.Card.ModuleSteps
import TimecodeCard.Proofs.Tco.Encoding

/-!
# Configuration, cache and hardware agree

The configuration of the time code module exists three times: as a `Tco.Config`, as the cached
control bank, and in the registers. Some operations write all of it and others change a single
bit in each place, so that agreement is an invariant (`Ltc.Target.Coherent`). Quadlet 1 is the
exception. While the output is armed it holds the set request, which the cache never does.

The invariant is kept by what the output does, one lemma each, and by every step of the module
(`Tco.Module.Step.coherent`). The main result,
`Card.Reachable.control_bank_coherent`, states it for every reachable card, with what it means
for single bits in hardware.
-/

namespace TimecodeCard

open Tco.Access (held? writable)

variable {δ : Type}

/-! ## Coherence -/

namespace Ltc.Target

/-- Whether configuration, cached control bank and held control bank agree, with quadlet 1 free
to hold a request while the output is armed. -/
structure Coherent (armed : Bool) (t : Target (Recorded δ)) : Prop where
  cache_eq : t.cache = t.config.encode
  held_q1 : armed = false → held? t.device 1 = some (writable t.cache.q1)
  held_q2 : held? t.device 2 = some (writable t.cache.q2)
  held_q3 : held? t.device 3 = some (writable t.cache.q3)

variable {armed : Bool} {t : Target (Recorded δ)}

namespace Coherent

/-- The set request is in no cached quadlet 1, so it stands for an armed output. -/
lemma armed_of_request (h : t.Coherent armed) {q : Quadlet} (hq : held? t.device 1 = some q)
    (hset : q.getLsbD 8 = true) : armed = true := by
  by_contra harmed
  have hheld := h.held_q1 (Bool.not_eq_true armed |>.mp harmed)
  obtain rfl := Option.some.inj (hq.symm.trans hheld)
  rw [h.cache_eq, Tco.Access.getLsbD_writable (by decide),
    Tco.Config.getLsbD_encode_request _ (by decide) (.inl rfl)] at hset
  exact nomatch hset

lemma run_eq (h : t.Coherent armed) {q : Quadlet} (hq : held? t.device 2 = some q) :
    q.getLsbD 16 = t.config.run := by
  obtain rfl := Option.some.inj (hq.symm.trans h.held_q2)
  rw [h.cache_eq, Tco.Access.getLsbD_writable (by decide), Tco.Config.getLsbD_encode_run]
  exact Bool.and_true _

lemma base_eq (h : t.Coherent armed) {q : Quadlet} (hq : held? t.device 2 = some q) :
    q.getLsbD 27 = decide (t.config.sampleRate.base = .hz48000) := by
  obtain rfl := Option.some.inj (hq.symm.trans h.held_q2)
  rw [h.cache_eq, Tco.Access.getLsbD_writable (by decide), Tco.Config.getLsbD_encode_base]
  exact Bool.and_true _

end Coherent

/-! ## The output keeps coherence -/

variable [Device δ]

lemma coherent_writeBank {config : Tco.Config} {cache : Bank} (hcache : cache = config.encode)
    (d : Recorded δ) :
    Coherent armed { config, cache, device := Tco.Access.writeBank d cache } where
  cache_eq := hcache
  held_q1 _ := Tco.Access.held?_writeBank cache (by decide)
  held_q2 := Tco.Access.held?_writeBank cache (by decide)
  held_q3 := Tco.Access.held?_writeBank cache (by decide)

namespace Coherent

lemma disarm (h : t.Coherent armed) : (Output.disarm t).Coherent false := by
  have hq1 : Tco.Access.withoutRequest t.cache.q1 = t.cache.q1 := by
    rw [h.cache_eq, Tco.Config.withoutRequest_encode]
  refine ⟨h.cache_eq, ?_, ?_, ?_⟩
  · intro _
    rw [Output.disarm, Tco.Access.resetTimeCode, Tco.Access.held?_write_self, hq1]
  · rw [Output.disarm, Tco.Access.resetTimeCode, Tco.Access.held?_write_of_ne (by decide)]
    exact h.held_q2
  · rw [Output.disarm, Tco.Access.resetTimeCode, Tco.Access.held?_write_of_ne (by decide)]
    exact h.held_q3

lemma setRun (h : t.Coherent armed) (run : Bool) : (Output.setRun run t).Coherent armed := by
  refine ⟨?_, ?_, ?_, ?_⟩
  · rw [Output.setRun, h.cache_eq, Tco.Config.withRun_encode]
    rfl
  · intro harmed
    rw [Output.setRun, Tco.Access.held?_write_of_ne (by decide)]
    exact h.held_q1 harmed
  · rw [Output.setRun, Tco.Access.held?_write_self]
  · rw [Output.setRun, Tco.Access.held?_write_of_ne (by decide)]
    exact h.held_q3

lemma arm (h : t.Coherent armed) (s : Scheduled) : (Output.arm s t).Coherent true := by
  have hwritten : Coherent true { t with
      device := Tco.Access.writeTimeCode t.device s.timeCode (Word.asSigned32 s.offset)
        t.cache.q1 } := by
    refine ⟨h.cache_eq, ?_, ?_, ?_⟩
    · -- An armed output has its request in quadlet 1, which the cache never has.
      intro harmed
      exact absurd harmed (by decide)
    · rw [Tco.Access.writeTimeCode, Tco.Access.held?_write_of_ne (by decide),
        Tco.Access.held?_write_of_ne (by decide)]
      exact h.held_q2
    · rw [Tco.Access.writeTimeCode, Tco.Access.held?_write_of_ne (by decide),
        Tco.Access.held?_write_of_ne (by decide)]
      exact h.held_q3
  exact hwritten.setRun true

lemma period {o : Output} {m : Moment} {p : OutputPeriod (Recorded δ)}
    (h : t.Coherent o.armed) (hperiod : o.period t m = .ok p) :
    p.target.Coherent p.output.armed := by
  have hdisarmed : Coherent false (if o.armed then Output.disarm t else t) := by
    split
    · exact h.disarm
    · next harmed => rwa [Bool.not_eq_true o.armed |>.mp harmed] at h
  rcases Output.period_cases hperiod with ⟨-, rfl⟩ | ⟨r, s, -, -, rfl⟩
  · exact hdisarmed
  · exact hdisarmed.arm s

end Coherent

end Ltc.Target

/-! ## The module keeps coherence -/

namespace Tco.Module

variable [Device δ]

/-- Whether what the module shares with its output is coherent. -/
def Coherent (x : Module × Recorded δ) : Prop :=
  (x.1.target x.2).Coherent x.1.output.armed

lemma coherent_start (d : Recorded δ) : Coherent (Module.start d) := by
  have hwritten : Ltc.Target.Coherent false
      { config := {}
        cache := Config.encode {}
        device := Access.writeBank d (Config.encode {}) } :=
    Ltc.Target.coherent_writeBank rfl d
  exact ⟨hwritten.cache_eq, hwritten.held_q1, hwritten.held_q2, hwritten.held_q3⟩

lemma coherent_followCard {m : Module} {d : Recorded δ} (h : Coherent (m, d))
    (card : BaseFrequency) : Coherent (m.followCard d card).2 := by
  unfold followCard
  simp only
  split
  · next hfollow =>
      refine ⟨?_, ?_, ?_, ?_⟩
      · show ({ m.cache with q2 := Access.withBaseRate (.ofCard card) m.cache.q2 } : Bank) = _
        rw [show m.cache = m.config.encode from h.cache_eq,
          Config.withBaseRate_encode hfollow.1]
        rfl
      · intro harmed
        rw [target, Access.held?_write_of_ne (by decide)]
        exact h.held_q1 harmed
      · rw [target, Access.held?_write_self]
      · rw [target, Access.held?_write_of_ne (by decide)]
        exact h.held_q3
  · exact h

/-- **Step.** Each step of the module keeps it coherent, provided that the saved banks were
encodings of the saved configurations. -/
theorem Step.coherent {saves : List Saved} {x y : Module × Recorded δ}
    (hsaves : ∀ s ∈ saves, s.cache = s.config.encode) (hstep : Step saves x y)
    (h : Coherent x) : Coherent y := by
  cases hstep with
  | quiet hconfig hcache houtput hheld =>
      obtain ⟨hcache', hq1, hq2, hq3⟩ := h
      refine ⟨?_, ?_, ?_, ?_⟩
      · exact hcache.trans (hcache'.trans (congrArg Config.encode hconfig.symm))
      · intro harmed
        rw [target, hheld, hcache]
        exact hq1 (houtput ▸ harmed)
      · rw [target, hheld, hcache]
        exact hq2
      · rw [target, hheld, hcache]
        exact hq3
  | request d _ => exact h
  | followCard m d card => exact coherent_followCard h card
  | serve hperiod => exact Ltc.Target.Coherent.period h hperiod
  | terminate m d => exact (Ltc.Target.Coherent.setRun h false).disarm
  | rewrite d hfrom => exact Ltc.Target.coherent_writeBank (hfrom.elim (hsaves _) id) d

end Tco.Module

/-! ## Reachable cards -/

variable [Device δ]

/-- **Run.** The module of a reachable card is coherent. -/
lemma Card.Reachable.module_coherent {model : CardModel} {saves : List SavedCard}
    {c : Card (Recorded δ)} {m : Tco.Module} (h : Reachable model saves c)
    (hmodule : c.module = some m) : Tco.Module.Coherent (m, c.device) := by
  obtain ⟨hcoherent, -⟩ := h.module_invariant (I := Tco.Module.Coherent)
    (S := fun s => s.cache = s.config.encode) Tco.Module.coherent_start
    (fun _ hx => hx.cache_eq) fun _ _ _ hsaves hstep hx => hstep.coherent hsaves hx
  exact hcoherent m hmodule

/-- **Coherence.** On every reachable card with a time code module, the cached control bank is
the encoding of the configuration. Hardware holds its writable part in quadlets 2 and 3, and in
quadlet 1 whenever no request is armed. So the set request stands in hardware only while one is
armed, and the run and 48 kHz bits there are those of the configuration. -/
theorem Card.Reachable.control_bank_coherent {model : CardModel} {saves : List SavedCard}
    {c : Card (Recorded δ)} {m : Tco.Module} (h : Reachable model saves c)
    (hmodule : c.module = some m) :
    m.cache = m.config.encode
      ∧ held? c.device 2 = some (writable m.cache.q2)
      ∧ held? c.device 3 = some (writable m.cache.q3)
      ∧ (m.output.armed = false → held? c.device 1 = some (writable m.cache.q1))
      ∧ (∀ q1, held? c.device 1 = some q1 → q1.getLsbD 8 = true → m.output.armed = true)
      ∧ ∀ q2, held? c.device 2 = some q2 →
        q2.getLsbD 16 = m.config.run
          ∧ q2.getLsbD 27 = decide (m.config.sampleRate.base = .hz48000) := by
  have hm := h.module_coherent hmodule
  exact ⟨hm.cache_eq, hm.held_q2, hm.held_q3, hm.held_q1, fun _ => hm.armed_of_request,
    fun _ hq => ⟨hm.run_eq hq, hm.base_eq hq⟩⟩

/-- A card which has just written a request to its registers. -/
theorem Card.Reachable.control_bank_coherent_armed :
    ∃ (c : Card (Recorded Scripted)) (m : Tco.Module) (q1 : Quadlet),
      Reachable .aio [] c ∧ c.module = some m
        ∧ held? c.device 1 = some q1 ∧ q1.getLsbD 8 = true ∧ m.output.armed = true
        ∧ m.cache = m.config.encode
        ∧ held? c.device 2 = some (writable m.cache.q2)
        ∧ ∀ q2, held? c.device 2 = some q2 → q2.getLsbD 16 = m.config.run := by
  have hattached : Reachable .aio []
      (Card.attach .aio (⟨⟨[0, 8, 0, 0, 0, 0, 1, 8]⟩, [], []⟩ : Recorded Scripted)) :=
    .attach _
  have hrequested := hattached.perform
    (show Operation.RestoresFrom [] (.request ⟨⟨0⟩, Ltc.Request.atOnce⟩) from trivial)
    (show Card.perform _ 0 _ = .ok _ from rfl)
  have hserved := hrequested.perform (show Operation.RestoresFrom [] .interrupt from trivial)
    (show Card.perform _ 0 _ = .ok _ from rfl)
  obtain ⟨hcache, hq2, -, -, harmed, hbits⟩ := control_bank_coherent hserved rfl
  exact ⟨_, _, _, hserved, rfl, rfl, rfl, harmed _ rfl rfl, hcache, hq2,
    fun q2 hheld => (hbits q2 hheld).1⟩

end TimecodeCard
