import Mathlib.Tactic
import TimecodeCard.Proofs.Card.Effects
import TimecodeCard.Proofs.Tco.ConfigCodec

/-!
# Settings are refused as a whole and change what they name

A client changes the length of the period, the clock rate and the parameters of the module, and
asks for time code output. Each of these may be refused. A refusal comes with the card in which the
operation stops, device and all, and that is the card which the operation has found
(`Card.setParam_refused` and its like). A parameter of the module names one field of the
configuration, or the two of the time code format together (`Tco.Param.overwrite`), and no other
field moves when it is set (`Tco.Param.eq_overwrite_of_apply`).

The main result is `Card.settings_refused_or_exact`. It also says which operations are refused,
that an index is accepted exactly within its list, and that the control bank is written, quadlet by
quadlet, exactly if the configuration becomes another one.
-/

namespace TimecodeCard

/-! ## Parameters and their fields -/

namespace Tco.Param

/-- The number of entries in the list. -/
def entries (card : BaseFrequency) : Choice → Nat
  | .syncSource => syncSources.length
  | .format => Format.all.length
  | .sampleRate => (sampleRates card).length
  | .pull => pulls.length
  | .conversion => conversions.length
  | .outputSpeed => outputSpeeds.length

/-- Whether the list has an entry at the index, if the parameter takes one. -/
def Listed (card : BaseFrequency) : Param → Prop
  | .choose choice index => index < entries card choice
  | _ => True

/-- The configuration with the fields which the parameter names taken from another one. -/
def overwrite (source target : Config) : Param → Config
  | .choose .syncSource _ => { target with syncSource := source.syncSource }
  | .choose .format _ => { target with rate := source.rate, dropFrame := source.dropFrame }
  | .choose .sampleRate _ => { target with sampleRate := source.sampleRate }
  | .choose .pull _ => { target with pull := source.pull }
  | .choose .conversion _ => { target with conversion := source.conversion }
  | .choose .outputSpeed _ => { target with outputSpeed := source.outputSpeed }
  | .termination _ => { target with termination := source.termination }
  | .run _ => { target with run := source.run }
  | .flywheel _ => { target with flywheel := source.flywheel }

variable {p : Param} {config config' : Config} {card : BaseFrequency}

lemma entries_eq_count (card : BaseFrequency) (choice : Choice) :
    entries card choice = choice.count := by
  cases choice <;> rfl

lemma refusal?_eq_none_iff (card : BaseFrequency) : p.refusal? = none ↔ p.Listed card := by
  cases p with
  | choose choice index =>
      rw [refusal?, Listed, entries_eq_count]
      exact ite_eq_left_iff.trans (by simp)
  | _ => exact iff_of_true rfl trivial

lemma eq_overwrite_of_choose {choice : Choice} {index : Nat}
    (h : choose? config card index choice = some config') :
    config' = overwrite config' config (.choose choice index) := by
  cases choice <;>
    · obtain ⟨entry, -, rfl⟩ := Option.map_eq_some_iff.mp h
      rfl

/-- A parameter moves no field but those which it names. -/
lemma eq_overwrite_of_apply (h : p.apply config card = .ok config') :
    config' = p.overwrite config' config := by
  cases p with
  | choose choice index =>
      rw [apply] at h
      split at h
      · next hchoose =>
          obtain rfl := Except.ok.inj h
          exact eq_overwrite_of_choose hchoose
      · cases h
  | _ =>
      obtain rfl := Except.ok.inj h
      rfl

end Tco.Param

/-! ## Settings of the card -/

namespace Card

variable {δ : Type} [Device δ] {c c' : Card (Recorded δ)} {now : Nat}

lemma exists_setParam_iff {m : Tco.Module} (hmodule : c.module = some m) (p : Tco.Param) :
    (∃ changed c', c.perform now (.setParam p) = .ok (c', { answer := .flag changed }))
      ↔ p.Listed c.rate.base := by
  rw [← Tco.Param.refusal?_eq_none_iff]
  have hperform : c.perform now (.setParam p) = .ok (settle ((c.setParam p).map _)) := rfl
  constructor
  · rintro ⟨changed, c', h⟩
    have hrefusal := fun r => (perform_effect h).refused_iff r
    simp only [refusal?, hmodule] at hrefusal
    cases hp : p.refusal? with
    | none => rfl
    | some r =>
        have hrefused := (hrefusal r).mpr hp
        cases hrefused
  · intro hp
    rw [hperform]
    rcases p.apply_cases m.config c.rate.base with ⟨config, happly, -⟩ | ⟨r, -, hr⟩
    · rw [setParam, hmodule]
      simp only [Tco.Module.setParam, happly]
      exact ⟨_, _, rfl⟩
    · rw [hp] at hr
      cases hr

lemma perform_refused {op : Operation} {r : Rejection} (h : c.refusal? op = some r) :
    c.perform now op = .ok (c, r.report) := by
  have hcompletes : ∃ c' report, c.perform now op = .ok (c', report) := by
    cases op with
    | setPeriodSize _ | setRate _ | setParam _ | request _ | requestWide _ _ => exact ⟨_, _, rfl⟩
    | _ => exact nomatch h
  obtain ⟨c', report, hperform⟩ := hcompletes
  have heffect := perform_effect hperform
  obtain ⟨rfl, rfl⟩ := heffect.of_refused ((heffect.refused_iff r).mpr h)
  exact hperform

/-- What a parameter which is accepted does to the card: nothing at all, or the whole control bank
is written and the module has the configuration with it. -/
lemma setParam_cases {m : Tco.Module} {p : Tco.Param} {changed : Bool}
    (hmodule : c.module = some m)
    (h : c.perform now (.setParam p) = .ok (c', { answer := .flag changed })) :
    ∃ config, p.apply m.config c.rate.base = .ok config
      ∧ ((config = m.config ∧ changed = false ∧ c' = c)
        ∨ config ≠ m.config ∧ changed = true
          ∧ c' = { c with
            module := some { m with config, cache := config.encode }
            device := Tco.Access.writeBank c.device config.encode }) := by
  generalize hreport : ({ answer := .flag changed } : Report) = report at h
  cases perform_effect h with
  | refuse _ => exact nomatch congrArg Report.answer hreport
  | configure hsome happly =>
      obtain rfl := Option.some.inj (hmodule.symm.trans hsome)
      obtain rfl := Answer.flag.inj (congrArg Report.answer hreport)
      refine ⟨_, happly, ?_⟩
      rcases m.configure_cases c.device _ with ⟨hsame, heq⟩ | ⟨hother, heq⟩
      · rw [heq]
        exact .inl ⟨hsame, rfl, by rw [← hmodule]⟩
      · rw [heq]
        exact .inr ⟨hother, rfl, rfl⟩

/-- **Settings are refused as a whole and change what they name.** An operation for whose refusal
the card has a reason leaves card and device as they are, and no other operation is refused. So
does each setting by itself: where it stops with an error, nothing has changed yet.

A parameter is accepted exactly if its entry is in its list. Of the module it may then change those
fields of the configuration which it names, and the cached bank. If the configuration becomes
another one, the four quadlets of the control bank are written in order, and otherwise nothing
is. -/
theorem settings_refused_or_exact (c : Card (Recorded δ)) (now : Nat) :
    (∀ op r, c.refusal? op = some r → c.perform now op = .ok (c, r.report))
      ∧ (∀ op c' report r, c.perform now op = .ok (c', report) → report.answer = .rejected r →
        c.refusal? op = some r ∧ c' = c)
      ∧ (∀ size r, c.setPeriodSize size = .error r → r.after = c)
      ∧ (∀ rate r, c.setRate rate = .error r → r.after = c)
      ∧ (∀ p r, c.setParam p = .error r → r.after = c)
      ∧ (∀ q r, c.request q = .error r → r.after = c)
      ∧ (∀ code target r, c.requestWide code target = .error r → r.after = c)
      ∧ ∀ m p, c.module = some m →
        ((∃ changed c', c.perform now (.setParam p) = .ok (c', { answer := .flag changed }))
          ↔ p.Listed c.rate.base)
        ∧ ∀ changed c', c.perform now (.setParam p) = .ok (c', { answer := .flag changed }) →
          ∃ config b, p.apply m.config c.rate.base = .ok config
            ∧ config = p.overwrite config m.config
            ∧ changed = decide (config ≠ m.config)
            ∧ c' = { c with
              module := some { m with
                config
                cache := if changed then config.encode else m.cache }
              device := c'.device }
            ∧ b = Tco.Access.written config.encode
            ∧ c'.device.writes = c.device.writes ++
              (if changed then [(128, b.q0), (132, b.q1), (136, b.q2), (140, b.q3)] else [])
            ∧ (changed = false → c' = c) := by
  refine ⟨fun _ _ => perform_refused, ?_, fun _ _ h => (setPeriodSize_refused h).2,
    fun _ _ h => (setRate_refused h).2, fun _ _ h => (setParam_refused h).2,
    fun _ _ h => (request_refused h).2.2, fun _ _ _ h => (request_refused h).2.2, ?_⟩
  · intro op c' report r h hrefused
    have heffect := perform_effect h
    exact ⟨(heffect.refused_iff r).mp hrefused, (heffect.of_refused hrefused).1⟩
  · intro m p hmodule
    refine ⟨exists_setParam_iff hmodule p, ?_⟩
    intro changed c' h
    obtain ⟨config, happly, hcases⟩ := setParam_cases hmodule h
    have hfields := Tco.Param.eq_overwrite_of_apply happly
    rcases hcases with ⟨hsame, rfl, rfl⟩ | ⟨hother, rfl, rfl⟩
    · refine ⟨config, _, happly, hfields, ?_, ?_, rfl, (List.append_nil _).symm, fun _ => rfl⟩
      · rw [hsame]
        simp
      · rw [hsame, if_neg Bool.false_ne_true]
        show c' = { c' with module := some m }
        rw [← hmodule]
    · refine ⟨config, _, happly, hfields, (decide_eq_true hother).symm, rfl, rfl, ?_, nofun⟩
      exact Tco.Config.writes_writeBank c.device config.encode

/-- On a running card the length of the period is refused, and so is an index past the last format.
The format of index 3 moves both of its fields and nothing else. -/
theorem settings_refused_or_exact_running :
    ∃ (c c' : Card (Recorded Scripted)) (m : Tco.Module) (config : Tco.Config),
      c.module = some m ∧ c.running = true
        ∧ c.perform 0 (.setPeriodSize 64) = .ok (c, Rejection.periodWhileRunning.report)
        ∧ c.perform 0 (.setParam (.choose .format 6))
          = .ok (c, (Rejection.badIndex .format 6).report)
        ∧ c.perform 0 (.setParam (.choose .format 3)) = .ok (c', { answer := .flag true })
        ∧ c' = { c with
          module := some { m with config, cache := config.encode }
          device := c'.device }
        ∧ config = { m.config with rate := .fps2997, dropFrame := true }
        ∧ c'.device.writes
          = c.device.writes ++ [(128, 0), (132, 0x00000a00), (136, 0), (140, 0)] := by
  obtain ⟨hrefused, -, -, -, -, -, -, hset⟩ := settings_refused_or_exact
    (Card.attach .aio (⟨⟨[0, 8]⟩, [], []⟩ : Recorded Scripted)).start 0
  obtain ⟨haccepted, hexact⟩ := hset _ (.choose .format 3) rfl
  obtain ⟨changed, c', hperform⟩ := haccepted.mpr (show 3 < Format.all.length by decide)
  obtain ⟨config, b, happly, -, hchanged, hcard, rfl, hwrites, -⟩ := hexact changed c' hperform
  obtain rfl := Except.ok.inj happly
  obtain rfl : changed = true := hchanged
  exact ⟨_, c', _, _, rfl, rfl, hrefused _ _ rfl, hrefused _ _ rfl, hperform, hcard, rfl, hwrites⟩

end Card

end TimecodeCard
