import Mathlib.Tactic
import TimecodeCard.Proofs.Card.Coherence
import TimecodeCard.Proofs.Card.Effects
import TimecodeCard.Proofs.Tco.ConfigCodec

/-!
# A rate from the card is the rate of the card

The sample rate of the time code module may be the base rate of the card. Which one that is stands
in the configuration as well, so it has to move with the clock of the card: when the client selects
the rate, when the card gets another one, and when what was saved of both is restored.
`Card.Follows` is the invariant, and every effect of an operation keeps it
(`Card.Follows.of_effect`). A restore keeps it because it takes what the same card has saved
(`SavedCard.Fits`).

The output is scheduled by the base rate in the cached control bank. The main result
`Card.Reachable.scheduled_at_followed_rate` says that this is the base rate of the configuration at
every interrupt, and so the one of the card if the module follows it.
-/

namespace TimecodeCard

/-- Whether the sample rate, if it is that of the card, is the one for its base frequency. -/
def Tco.SampleRate.Follows (rate : SampleRate) (card : BaseFrequency) : Prop :=
  ∀ base, rate = .ofCard base → base = .ofCard card

variable {δ : Type}

namespace Tco

variable {m : Module} {config : Config} {card : BaseFrequency}

/-- The last entry in the list of sample rates is the rate of the card. -/
lemma Param.follows_of_apply {p : Param} (happly : p.apply m.config card = .ok config)
    (h : m.config.sampleRate.Follows card) : config.sampleRate.Follows card := by
  cases p with
  | choose choice index =>
      rw [apply] at happly
      split at happly
      · next config' hchoose =>
          obtain rfl := Except.ok.inj happly
          cases choice with
          | sampleRate =>
              obtain ⟨rate, hrate, rfl⟩ := Option.map_eq_some_iff.mp hchoose
              rintro base rfl
              have hmem : SampleRate.ofCard base ∈ sampleRates card := List.mem_of_getElem? hrate
              simpa [sampleRates] using hmem
          | _ =>
              obtain ⟨_, -, rfl⟩ := Option.map_eq_some_iff.mp hchoose
              exact h
      · cases happly
  | _ =>
      obtain rfl := Except.ok.inj happly
      exact h

variable [Device δ] {d : δ}

lemma Module.follows_followCard (m : Module) (d : δ) (card : BaseFrequency) :
    (m.followCard d card).2.1.config.sampleRate.Follows card := by
  unfold followCard
  simp only
  split
  · intro base hbase
    exact (SampleRate.ofCard.inj hbase).symm
  · next hother =>
      intro base hbase
      by_contra hne
      refine hother ⟨?_, ?_⟩
      · rw [hbase, SampleRate.followsCard]
      · rw [hbase]
        exact hne

lemma Module.sampleRate_period {frames periodSize speed now : Nat} {p : ModulePeriod δ}
    (h : m.period d frames periodSize speed now = .ok p) :
    p.module.config.sampleRate = m.config.sampleRate := by
  obtain ⟨o, houtput, rfl⟩ := period_cases h
  show o.target.config.sampleRate = m.config.sampleRate
  rw [Ltc.Output.config_period houtput]

end Tco

/-! ## The invariant -/

/-- Whether the module of the card, if it has one and follows the card, is at its base rate. -/
def Card.Follows (c : Card δ) : Prop :=
  ∀ m, c.module = some m → m.config.sampleRate.Follows c.rate.base

/-- Whether the saved parameters are of a card with the same parts, and go together. -/
structure SavedCard.Fits (s : SavedCard) (hasModule : Bool) : Prop where
  isSome_module : s.module.isSome = hasModule
  follows : ∀ t, s.module = some t → t.config.sampleRate.Follows s.control.rate.base

namespace Card

variable {c : Card δ}

namespace Follows

lemma of_module {m : Tco.Module} (hmodule : c.module = some m)
    (h : m.config.sampleRate.Follows c.rate.base) : c.Follows := by
  intro m' hm'
  obtain rfl := Option.some.inj (hmodule.symm.trans hm')
  exact h

lemma congr {c' : Card δ} {m m' : Tco.Module} (h : c.Follows) (hbase : c'.rate.base = c.rate.base)
    (hmodule : c.module = some m) (hmodule' : c'.module = some m')
    (hrate : m'.config.sampleRate = m.config.sampleRate) : c'.Follows := by
  refine of_module hmodule' ?_
  rw [hrate, hbase]
  exact h m hmodule

lemma fits_save (h : c.Follows) : c.save.Fits c.hasModule where
  isSome_module := Option.isSome_map
  follows t ht := by
    obtain ⟨m, hm, rfl⟩ := Option.map_eq_some_iff.mp ht
    exact h m hm

variable [Device δ] {c' : Card δ} {now : Nat} {op : Operation} {report : Report}

/-- **Step.** Every effect keeps the module at the base rate of the card, provided that a restore
takes what fits the card. -/
lemma of_effect (h : c.Follows) (hrestores : ∀ s, op = .restore s → s.Fits c.hasModule)
    (heffect : Effect c now op c' report) : c'.Follows := by
  cases heffect with
  | serve _ _ hmodule hperiod =>
      exact h.congr rfl hmodule rfl (Tco.Module.sampleRate_period hperiod)
  | hear _ hmodule hboundary =>
      obtain ⟨window, rfl⟩ := Tco.Module.exists_of_boundary hboundary
      exact h.congr rfl hmodule rfl rfl
  | poll hmodule => exact h.congr rfl hmodule rfl rfl
  | terminate =>
      exact terminate_keeps h (fun _ hmodule => h.congr rfl hmodule rfl rfl) fun _ hd => hd
  | writeRate _ _ hmodule =>
      intro m hm
      exact nomatch hmodule.symm.trans hm
  | @followRate rate m _ _ _ => exact of_module rfl (m.follows_followCard _ rate.base)
  | configure hmodule happly =>
      refine of_module rfl ?_
      rw [Tco.Module.configure_eq]
      exact Tco.Param.follows_of_apply happly (h _ hmodule)
  | request hmodule | requestWide hmodule => exact h.congr rfl hmodule rfl rfl
  | @reset s hmissing =>
      intro m hm
      have hsaved : s.module.isSome :=
        (hrestores s rfl).isSome_module.trans (congrArg Option.isSome hm)
      rcases hmissing with hnone | hnone
      · exact nomatch hnone.symm.trans hm
      · exact nomatch (congrArg Option.isSome hnone).symm.trans hsaved
  | @restore s m t _ hsaved => exact of_module rfl ((hrestores s rfl).follows t hsaved)
  | _ => exact h

end Follows

/-! ## Reachable cards -/

variable [Device δ] {model : CardModel} {saves : List SavedCard}

lemma follows_attach (model : CardModel) (d : δ) : (Card.attach model d).Follows := by
  intro m hm base hbase
  obtain ⟨d', rfl⟩ := exists_start_of_attach hm
  exact nomatch hbase

/-- **Run.** The module of a reachable card is at the base rate of the card, and what the card has
saved fits it. -/
lemma Reachable.follows (h : Reachable model saves c) :
    c.Follows ∧ ∀ s ∈ saves, s.Fits c.hasModule := by
  induction h with
  | attach d =>
      refine ⟨follows_attach model d, ?_⟩
      intro s hs
      exact nomatch hs
  | save _ ih =>
      obtain ⟨hfollows, hsaves⟩ := ih
      refine ⟨hfollows, ?_⟩
      intro s hs
      rcases List.mem_cons.mp hs with rfl | hs
      · exact hfollows.fits_save
      · exact hsaves s hs
  | perform _ hrestores hperform ih =>
      obtain ⟨hfollows, hsaves⟩ := ih
      have heffect := perform_effect hperform
      refine ⟨hfollows.of_effect (fun s hs => ?_) heffect, ?_⟩
      · rw [hs] at hrestores
        exact hsaves s hrestores
      · rw [heffect.hasModule_eq]
        exact hsaves

/-- **A rate from the card is the rate of the card.** On every reachable card with the time code
module, a sample rate which is that of the card is the one for its base frequency. Whatever request
waits at an interrupt is scheduled by the base rate in the cached quadlet 2, which is the one of the
configuration. -/
theorem Reachable.scheduled_at_followed_rate {c : Card (Recorded δ)} {m : Tco.Module}
    (h : Reachable model saves c) (hmodule : c.module = some m) :
    (∀ base, m.config.sampleRate = .ofCard base → base = .ofCard c.rate.base)
      ∧ Tco.BaseRate.ofQuadlet2 m.cache.q2 = m.config.sampleRate.base
      ∧ ∀ now i r, c.interrupt now = .ok i → i.handled = true → m.output.pending = some r →
        ∃ (moment : Ltc.Moment) (m' : Tco.Module) (s : Ltc.Scheduled),
          moment = m.moment i.card.position.frames i.card.position.periodSize
              c.rate.speed.factor now
            ∧ moment.baseRate = m.config.sampleRate.base
            ∧ Ltc.schedule? r moment = .ok s
            ∧ i.card.module = some m' ∧ m'.output.last = some s := by
  have hbase : Tco.BaseRate.ofQuadlet2 m.cache.q2 = m.config.sampleRate.base := by
    rw [show m.cache = m.config.encode from (h.module_coherent hmodule).cache_eq,
      Tco.Config.ofQuadlet2_encode]
  refine ⟨h.follows.1 m hmodule, hbase, ?_⟩
  intro now i r hinterrupt hhandled hpending
  obtain ⟨m', s, hmodule', hlast, hschedule⟩ :=
    (interrupt_effect hinterrupt).exists_scheduled (congrArg _ hhandled) hmodule hpending
  exact ⟨_, m', s, rfl, hbase, hschedule, hmodule', hlast⟩

/-- The module follows the card from 44.1 kHz to 48 kHz, back by a restore and on to 48 kHz again,
where a request is scheduled. -/
theorem Reachable.scheduled_at_followed_rate_restored :
    ∃ (c : Card (Recorded Scripted)) (m m' : Tco.Module) (i : Interrupt (Recorded Scripted))
        (saved : SavedCard) (moment : Ltc.Moment) (s : Ltc.Scheduled),
      Reachable .aio [saved] c ∧ saved.control.rate.base = .hz44100 ∧ c.rate.base = .hz48000
        ∧ c.module = some m ∧ m.config.sampleRate = .ofCard .hz48000
        ∧ Tco.BaseRate.hz48000 = .ofCard c.rate.base
        ∧ c.interrupt 0 = .ok i ∧ i.handled = true
        ∧ moment.baseRate = m.config.sampleRate.base
        ∧ Ltc.schedule? ⟨⟨0⟩, Ltc.Request.atOnce⟩ moment = .ok s
        ∧ i.card.module = some m' ∧ m'.output.last = some s := by
  have hattached : Reachable .aio []
      (Card.attach .aio (⟨⟨[0, 8, 0, 0, 0, 0, 1, 8]⟩, [], []⟩ : Recorded Scripted)) :=
    .attach _
  have hselected := hattached.perform
    (show Operation.RestoresFrom [] (.setParam (.choose .sampleRate 2)) from trivial)
    (show Card.perform _ 0 _ = .ok _ from rfl)
  have hsaved := hselected.save
  have hfollowed := hsaved.perform
    (show Operation.RestoresFrom _ (.setRate { base := .hz48000 }) from trivial)
    (show Card.perform _ 0 _ = .ok _ from rfl)
  have hrestored := hfollowed.perform
    (show Operation.RestoresFrom _ (.restore _) from List.mem_singleton_self _)
    (show Card.perform _ 0 _ = .ok _ from rfl)
  have hagain := hrestored.perform
    (show Operation.RestoresFrom _ (.setRate { base := .hz48000 }) from trivial)
    (show Card.perform _ 0 _ = .ok _ from rfl)
  have hrequested := hagain.perform
    (show Operation.RestoresFrom _ (.request ⟨⟨0⟩, Ltc.Request.atOnce⟩) from trivial)
    (show Card.perform _ 0 _ = .ok _ from rfl)
  obtain ⟨hrate, -, hscheduled⟩ := scheduled_at_followed_rate hrequested rfl
  obtain ⟨moment, m', s, -, hbase, hschedule, hmodule, hlast⟩ := hscheduled 0 _ _ rfl rfl rfl
  exact ⟨_, _, m', _, _, moment, s, hrequested, rfl, rfl, rfl, rfl, hrate _ rfl, rfl, rfl, hbase,
    hschedule, hmodule, hlast⟩

end Card

end TimecodeCard
