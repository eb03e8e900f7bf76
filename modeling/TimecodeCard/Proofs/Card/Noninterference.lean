import Mathlib.Tactic
import TimecodeCard.Proofs.Card.Effects
import TimecodeCard.Proofs.Tco.Held

/-!
# The time code at the input does not disturb the output

Input and output share the module, the device and the interrupt at which both are served. Still,
what is read from the status bank and what arrives in messages must not have an influence on what is
written.

`Card.Twin` holds of two cards after runs of the same operations, in which the readings of the
status bank and the messages may differ in any way. The relation that every operation keeps is that
both cards are the same once everything heard at the input is left out (`Card.deaf`). So the main
result `Card.Twin.same_output` follows from how each operation gets along without it.
-/

namespace TimecodeCard

variable {δ δ' : Type} [Device δ] [Device δ']

/-! ## Without the input -/

/-- The log of what was written, on a device which has no answers. -/
def Recorded.deaf {δ : Type} (r : Recorded δ) : Recorded Scripted :=
  { device := {}, writeLog := r.writeLog }

/-- The module without its input and the status. -/
def Tco.Module.deaf (m : Module) : Module :=
  { m with input := {}, status := {} }

/-- What the output shares with the module, on a device which has no answers. -/
def Ltc.Target.deaf {δ : Type} (t : Target (Recorded δ)) : Target (Recorded Scripted) :=
  { config := t.config, cache := t.cache, device := t.device.deaf }

/-- The card without what it has heard of the time code at the input. -/
def Card.deaf {δ : Type} (c : Card (Recorded δ)) : Card (Recorded Scripted) :=
  { device := c.device.deaf
    model := c.model
    control := c.control
    position := c.position
    interrupts := c.interrupts
    module := c.module.map Tco.Module.deaf }

namespace Card

variable (c : Card (Recorded δ))

omit [Device δ] in
@[simp] lemma rate_deaf : c.deaf.rate = c.rate := rfl

omit [Device δ] in
@[simp] lemma running_deaf : c.deaf.running = c.running := rfl

omit [Device δ] in
@[simp] lemma model_deaf : c.deaf.model = c.model := rfl

variable {c}

omit [Device δ] in
lemma module_deaf_of_none (h : c.module = none) : c.deaf.module = none :=
  congrArg (Option.map Tco.Module.deaf) h

omit [Device δ] in
lemma module_deaf_of_some {m : Tco.Module} (h : c.module = some m) :
    c.deaf.module = some m.deaf :=
  congrArg (Option.map Tco.Module.deaf) h

end Card

/-! ## Interrupts -/

/-- Two computations that go on alike after alike results have alike results. -/
lemma map_bind_congr {ε α α' β β' γ η : Type} {x : Except ε α} {x' : Except ε α'}
    {F : α → Except ε β} {F' : α' → Except ε β'} {f : α → γ} {f' : α' → γ} {g : β → η}
    {g' : β' → η} (hx : x.map f = x'.map f')
    (hF : ∀ a a', f a = f' a' → (F a).map g = (F' a').map g') :
    (x >>= F).map g = (x' >>= F').map g' := by
  cases x with
  | error e =>
      cases x' with
      | error e' => exact congrArg Except.error (Except.error.inj hx)
      | ok a' => exact nomatch hx
  | ok a =>
      cases x' with
      | error e' => exact nomatch hx
      | ok a' => exact hF a a' (Except.ok.inj hx)

lemma eq_error_iff_map {ε α β : Type} {x : Except ε α} {f : α → β} {e : ε} :
    x = .error e ↔ x.map f = .error e := by
  cases x <;> simp [Except.map]

lemma Ltc.Output.period_deaf (o : Output) (t : Target (Recorded δ)) (m : Moment) :
    (o.period t m).map (fun p => (p.output, p.target.deaf))
      = (o.period t.deaf m).map fun p => (p.output, p.target) := by
  unfold period
  cases hpending : o.pending with
  | none => cases o.armed <;> rfl
  | some r =>
      cases hschedule : schedule? r m with
      | error e =>
          simp only [hschedule]
          rfl
      | ok s =>
          simp only [hschedule]
          cases o.armed <;> rfl

lemma Tco.Module.period_deaf (m : Module) (d : Recorded δ) (frames periodSize speed now : Nat) :
    (m.period d frames periodSize speed now).map (fun p => (p.module.deaf, p.device.deaf))
      = (m.deaf.period d.deaf frames periodSize speed now).map
        fun p => (p.module.deaf, p.device) := by
  have hread : (m.input.period d frames speed).2.2.deaf = d.deaf :=
    congrArg (Recorded.mk _ _) (Access.writeLog_trackerPeriod m.input frames speed)
  have houtput := m.output.period_deaf ⟨m.config, m.cache, (m.input.period d frames speed).2.2⟩
    (m.moment frames periodSize speed now)
  rw [Ltc.Target.deaf, hread] at houtput
  refine map_bind_congr houtput ?_
  intro p p' hp
  obtain ⟨ho, ht⟩ := Prod.mk.inj hp
  show Except.ok _ = Except.ok _
  rw [← ho, ← ht]
  rfl

lemma Tco.Module.followCard_deaf (m : Module) (d : Recorded δ) (card : BaseFrequency) :
    m.deaf.followCard d.deaf card
      = (m.followCard d card).map id (Prod.map deaf Recorded.deaf) := by
  unfold followCard
  simp only
  rw [apply_ite (Prod.map id (Prod.map deaf Recorded.deaf))]
  rfl

lemma Tco.Module.configure_deaf (m : Module) (d : Recorded δ) (config : Config) :
    m.deaf.configure d.deaf config
      = (m.configure d config).map id (Prod.map deaf Recorded.deaf) := by
  unfold configure
  simp only
  rw [apply_ite (Prod.map id (Prod.map deaf Recorded.deaf))]
  rfl

namespace Card

lemma servePeriod_deaf (c : Card (Recorded δ)) (pointer now : Nat) :
    (c.servePeriod pointer now).map (·.card.deaf)
      = (c.deaf.servePeriod pointer now).map (·.card.deaf) := by
  refine map_bind_congr (f := id) rfl ?_
  rintro interrupts _ rfl
  refine map_bind_congr (f := id) rfl ?_
  rintro position _ rfl
  cases hmodule : c.module with
  | none =>
      simp only [deaf, hmodule, Option.map_none]
      rfl
  | some m =>
      simp only [deaf, hmodule, Option.map_some]
      have hperiod := m.period_deaf c.device position.frames position.periodSize
        c.rate.speed.factor now
      refine map_bind_congr hperiod ?_
      intro p p' hp
      obtain ⟨hm, hd⟩ := Prod.mk.inj hp
      show Except.ok (Card.mk p.device.deaf _ _ _ _ (some p.module.deaf))
        = Except.ok (Card.mk p'.device.deaf _ _ _ _ (some p'.module.deaf))
      rw [hm, ← hd]
      rfl

/-- An interrupt reads the status of the card, and for the rest gets along without the input. -/
lemma interrupt_deaf (c : Card (Recorded δ)) (now : Nat) :
    (c.interrupt now).map (·.card.deaf)
      = if (CardStatus.read c.device).1.interruptPending then
          (servePeriod { c.deaf with device := CardStatus.confirm c.deaf.device }
            (CardStatus.read c.device).1.hardwarePointer now).map (·.card.deaf)
        else .ok c.deaf := by
  unfold interrupt
  simp only
  split
  · exact servePeriod_deaf { c with device := CardStatus.confirm (CardStatus.read c.device).2 } _ now
  · rfl

/-! ## Everything else -/

lemma deaf_poll (c : Card (Recorded δ)) : c.poll.2.deaf = c.deaf := by
  unfold poll
  split
  · rfl
  · next m hmodule =>
      rw [deaf, deaf, hmodule]
      rfl

/-- Whether a message is at a boundary or not, it changes nothing but the input. -/
lemma deaf_of_midi {c c' : Card (Recorded δ)} {bytes : List UInt8} {now : Nat} {report : Report}
    (h : c.perform now (.midi bytes) = .ok (c', report)) : c'.deaf = c.deaf := by
  cases perform_effect h with
  | refuse _ | pass _ => rfl
  | hear _ hmodule hboundary =>
      obtain ⟨window, rfl⟩ := Tco.Module.exists_of_boundary hboundary
      rw [deaf, deaf, hmodule]
      rfl

lemma deaf_terminate (c : Card (Recorded δ)) : c.terminate.deaf = c.deaf.terminate := by
  have hmodule : c.terminateModule.deaf = c.deaf.terminateModule := by
    unfold terminateModule
    cases hmodule : c.module with
    | none => simp only [deaf, hmodule, Option.map_none]
    | some m =>
        simp only [deaf, hmodule, Option.map_some]
        rfl
  unfold terminate
  simp only [← hmodule, running_deaf]
  by_cases hrunning : c.terminateModule.running
  · rw [if_pos hrunning, if_pos hrunning]
    rfl
  · rw [if_neg hrunning, if_neg hrunning]

/-! A setting leaves a card also where it is refused, so each of the next lemmas is about the card
which is left, whether the setting is refused or not. -/

lemma setPeriodSize_deaf (c : Card (Recorded δ)) (size : Nat) :
    (settle ((c.setPeriodSize size).map ((Answer.done, ·)))).1.deaf
      = (settle ((c.deaf.setPeriodSize size).map ((Answer.done, ·)))).1 := by
  unfold setPeriodSize
  rw [running_deaf, model_deaf]
  by_cases hrunning : c.running
  · rw [if_pos hrunning, if_pos hrunning]
    rfl
  · rw [if_neg hrunning, if_neg hrunning]
    cases c.model.latencyCode? size <;> rfl

lemma setRate_deaf (c : Card (Recorded δ)) (rate : ClockRate) :
    (settle ((c.setRate rate).map fun (b, c) => (Answer.flag b, c))).1.deaf
      = (settle ((c.deaf.setRate rate).map fun (b, c) => (Answer.flag b, c))).1 := by
  unfold setRate
  rw [rate_deaf, running_deaf]
  by_cases hrate : c.rate = rate
  · rw [if_pos hrate, if_pos hrate]
    rfl
  · rw [if_neg hrate, if_neg hrate]
    by_cases hrunning : c.running
    · rw [if_pos hrunning, if_pos hrunning]
      rfl
    · rw [if_neg hrunning, if_neg hrunning]
      cases hmodule : c.module with
      | none =>
          simp only [writeControl, module_deaf_of_none hmodule, hmodule]
          rfl
      | some m =>
          simp only [writeControl, module_deaf_of_some hmodule, hmodule]
          have hfollow :=
            m.followCard_deaf (Control.write { c.control with rate } c.device) rate.base
          show _ = Card.mk
            (m.deaf.followCard (Control.write { c.control with rate } c.device).deaf rate.base).2.2
            _ _ _ _ (some (m.deaf.followCard
              (Control.write { c.control with rate } c.device).deaf rate.base).2.1)
          rw [hfollow]
          rfl

lemma setParam_deaf (c : Card (Recorded δ)) (p : Tco.Param) :
    (settle ((c.setParam p).map fun (b, c) => (Answer.flag b, c))).1.deaf
      = (settle ((c.deaf.setParam p).map fun (b, c) => (Answer.flag b, c))).1 := by
  unfold setParam
  cases hmodule : c.module with
  | none =>
      simp only [module_deaf_of_none hmodule]
      rfl
  | some m =>
      simp only [module_deaf_of_some hmodule, Tco.Module.setParam]
      have hsame : p.apply m.deaf.config c.deaf.rate.base = p.apply m.config c.rate.base := rfl
      rw [hsame]
      cases p.apply m.config c.rate.base with
      | error r => rfl
      | ok config =>
          show _ = Card.mk (m.deaf.configure c.device.deaf config).2.2 _ _ _ _
            (some (m.deaf.configure c.device.deaf config).2.1)
          rw [m.configure_deaf c.device config]
          rfl

omit [Device δ] in
lemma request_deaf (c : Card (Recorded δ)) (r : Ltc.Request) :
    (settle ((c.request r).map ((Answer.done, ·)))).1.deaf
      = (settle ((c.deaf.request r).map ((Answer.done, ·)))).1 := by
  unfold request
  cases hmodule : c.module with
  | none =>
      simp only [module_deaf_of_none hmodule]
      rfl
  | some m =>
      simp only [module_deaf_of_some hmodule]
      rfl

lemma deaf_restore (c : Card (Recorded δ)) (s : SavedCard) :
    (c.restore s).deaf = c.deaf.restore s := by
  unfold restore
  cases hmodule : c.module with
  | none =>
      simp only [writeControl, resize, deaf, hmodule, Option.map_none]
      rfl
  | some m =>
      simp only [writeControl, resize, deaf, hmodule, Option.map_some]
      cases s.module <;> rfl

/-! ## Two runs -/

variable {model : CardModel} {c : Card (Recorded δ)} {c' : Card (Recorded δ')} {now now' : Nat}
  {op : Operation}

/-- **Step.** Cards which are the same without the input are the same without it after an operation
other than a message, if an interrupt finds the same status of the card at the same time. -/
lemma perform_congr (h : c.deaf = c'.deaf) (hop : ∀ bytes, op ≠ .midi bytes)
    (hsame : op = .interrupt →
      now = now' ∧ (CardStatus.read c.device).1 = (CardStatus.read c'.device).1) :
    (c.perform now op).map (·.1.deaf) = (c'.perform now' op).map (·.1.deaf) := by
  cases op with
  | interrupt =>
      obtain ⟨rfl, hstatus⟩ := hsame rfl
      refine map_bind_congr (f := (·.card.deaf)) (?_ : _ = Except.map (·.card.deaf) _) ?_
      · rw [interrupt_deaf, interrupt_deaf, h, hstatus]
      · intro i i' hi
        exact congrArg Except.ok hi
  | midi bytes => exact absurd rfl (hop bytes)
  | poll =>
      show Except.ok c.poll.2.deaf = Except.ok c'.poll.2.deaf
      rw [deaf_poll, deaf_poll, h]
  | start => exact congrArg (fun d => Except.ok d.start) h
  | stop => exact congrArg (fun d => Except.ok d.stop) h
  | terminate =>
      show Except.ok c.terminate.deaf = Except.ok c'.terminate.deaf
      rw [deaf_terminate, deaf_terminate, h]
  | setPeriodSize size =>
      show Except.ok (settle _).1.deaf = Except.ok (settle _).1.deaf
      rw [setPeriodSize_deaf, setPeriodSize_deaf, h]
  | setRate rate =>
      show Except.ok (settle _).1.deaf = Except.ok (settle _).1.deaf
      rw [setRate_deaf, setRate_deaf, h]
  | setParam p =>
      show Except.ok (settle _).1.deaf = Except.ok (settle _).1.deaf
      rw [setParam_deaf, setParam_deaf, h]
  | request r =>
      show Except.ok (settle _).1.deaf = Except.ok (settle _).1.deaf
      rw [request_deaf, request_deaf, h]
  | requestWide code target =>
      show Except.ok (settle _).1.deaf = Except.ok (settle _).1.deaf
      rw [requestWide, requestWide, request_deaf, request_deaf, h]
  | restore s =>
      show Except.ok (c.restore s).deaf = Except.ok (c'.restore s).deaf
      rw [deaf_restore, deaf_restore, h]

lemma attach_congr (model : CardModel) {d : Recorded δ} {d' : Recorded δ'}
    (hlog : d.writeLog = d'.writeLog)
    (hstatus : (CardStatus.read d).1 = (CardStatus.read d').1) :
    (attach model d).deaf = (attach model d').deaf := by
  have hread : (CardStatus.read d).2.deaf = (CardStatus.read d').2.deaf :=
    congrArg (Recorded.mk ({} : Scripted) []) hlog
  unfold attach
  simp only [hstatus]
  split
  · exact congrArg (fun r : Recorded Scripted => writeControl
      { device := Tco.Access.writeBank r (Tco.Config.encode {}), model, control := {}, position := _,
        module := some _ } { latency := initialLatency }) hread
  · exact congrArg (fun r : Recorded Scripted => writeControl
      { device := r, model, control := {}, position := _, module := none }
      { latency := initialLatency }) hread

/-- Two cards of the model after runs of the same operations, of which each interrupt finds the same
status of the card at the same time. Everything else that is read may differ, and either card may
receive messages by itself. -/
inductive Twin (model : CardModel) : Card (Recorded δ) → Card (Recorded δ') → Prop
  | attach {d : δ} {d' : δ'} (hstatus : (CardStatus.read d).1 = (CardStatus.read d').1) :
    Twin model (Card.attach model ⟨d, [], []⟩) (Card.attach model ⟨d', [], []⟩)
  | perform {c d : Card (Recorded δ)} {c' d' : Card (Recorded δ')} {now now' : Nat}
      {op : Operation} {report report' : Report} :
    Twin model c c' → c.perform now op = .ok (d, report) → c'.perform now' op = .ok (d', report') →
      (op = .interrupt →
        now = now' ∧ (CardStatus.read c.device).1 = (CardStatus.read c'.device).1) →
      Twin model d d'
  | left {c d : Card (Recorded δ)} {c' : Card (Recorded δ')} {now : Nat} {bytes : List UInt8}
      {report : Report} :
    Twin model c c' → c.perform now (.midi bytes) = .ok (d, report) → Twin model d c'
  | right {c : Card (Recorded δ)} {c' d' : Card (Recorded δ')} {now : Nat} {bytes : List UInt8}
      {report : Report} :
    Twin model c c' → c'.perform now (.midi bytes) = .ok (d', report) → Twin model c d'

/-- **Run.** Two such cards are the same without the input. -/
lemma Twin.deaf_eq (h : Twin model c c') : c.deaf = c'.deaf := by
  induction h with
  | attach hstatus => exact attach_congr model rfl hstatus
  | @perform _ _ _ _ _ _ op _ _ _ hleft hright hsame ih =>
      by_cases hmidi : ∃ bytes, op = .midi bytes
      · obtain ⟨bytes, rfl⟩ := hmidi
        rw [deaf_of_midi hleft, deaf_of_midi hright, ih]
      · have hmap := perform_congr ih (not_exists.mp hmidi) hsame
        rw [hleft, hright] at hmap
        exact Except.ok.inj hmap
  | left _ hleft ih => exact (deaf_of_midi hleft).trans ih
  | right _ hright ih => exact ih.trans (deaf_of_midi hright).symm

/-- **The time code at the input does not disturb the output.** However the readings of the status
bank and the messages of two such runs differ, the same quadlets have been written to the same
registers in the same order, the control parameters, configuration and cached control bank are the
same, and so are the request which waits, the one which is armed and the start scheduled last.
Neither of the next operations of the runs fails without the other. -/
theorem Twin.same_output (h : Twin model c c') :
    c.device.writes = c'.device.writes
      ∧ c.save = c'.save
      ∧ c.module.map (·.config) = c'.module.map (·.config)
      ∧ c.module.map (·.output) = c'.module.map (·.output)
      ∧ ∀ now now' op, (∀ bytes, op ≠ .midi bytes) →
        (op = .interrupt →
          now = now' ∧ (CardStatus.read c.device).1 = (CardStatus.read c'.device).1) →
        ∀ e, c.perform now op = .error e ↔ c'.perform now' op = .error e := by
  have hdeaf := h.deaf_eq
  have hmodule : c.module.map Tco.Module.deaf = c'.module.map Tco.Module.deaf :=
    congrArg Card.module hdeaf
  have hpart : ∀ {α : Type} (f : Tco.Module → α), (∀ m, f m.deaf = f m) →
      c.module.map f = c'.module.map f := by
    intro α f hf
    have hmap := congrArg (Option.map f) hmodule
    simpa only [Option.map_map, Function.comp_def, hf] using hmap
  refine ⟨?_, ?_, hpart _ fun _ => rfl, hpart _ fun _ => rfl, ?_⟩
  · exact congrArg (fun d => d.device.writes) hdeaf
  · have hcontrol : c.control = c'.control := congrArg Card.control hdeaf
    rw [save, save, hcontrol, hpart Tco.Module.save fun _ => rfl]
  · intro now now' op hop hsame e
    have hmap := perform_congr hdeaf hop hsame
    rw [eq_error_iff_map, hmap, ← eq_error_iff_map]

/-- Two cards with one request armed by an interrupt. Only one of them has heard a boundary before
it, and so has read a time code, which changes while it is read. -/
theorem Twin.same_output_heard :
    ∃ (c c' : Card (Recorded Scripted)) (m m' : Tco.Module) (s : Ltc.Scheduled),
      Twin .aio c c' ∧ c.module = some m ∧ c'.module = some m'
        ∧ m.input.lastArrival = some 5 ∧ m'.input.lastArrival = none
        ∧ c.device.reads.length = c'.device.reads.length + 4
        ∧ m.output.armed = true ∧ m.output.last = some s
        ∧ c.device.writes = c'.device.writes ∧ m'.output.last = some s := by
  have hattached : Twin .aio
      (Card.attach .aio (⟨⟨[0, 8, 0x01020304, 0x80, 0, 0, 1, 8, 0x05, 0x80, 0x06, 0]⟩, [], []⟩ :
        Recorded Scripted))
      (Card.attach .aio (⟨⟨[0, 8, 0, 0, 0, 0, 1, 8]⟩, [], []⟩ : Recorded Scripted)) :=
    .attach rfl
  have hrequested := hattached.perform
    (show Card.perform _ 0 (.request ⟨⟨0x10000000⟩, Ltc.Request.atOnce⟩) = .ok _ from rfl)
    (show Card.perform _ 0 _ = .ok _ from rfl) nofun
  have hheard := hrequested.left (show Card.perform _ 5 (.midi [0xf1, 0x00]) = .ok _ from rfl)
  have hserved := hheard.perform (show Card.perform _ 9 .interrupt = .ok _ from rfl)
    (show Card.perform _ 9 _ = .ok _ from rfl) fun _ => ⟨rfl, rfl⟩
  obtain ⟨hwrites, -, -, houtput, -⟩ := hserved.same_output
  have hlast := congrArg (Option.map Ltc.Output.last) houtput
  exact ⟨_, _, _, _, _, hserved, rfl, rfl, rfl, rfl, rfl, rfl, rfl, hwrites,
    (Option.some.inj hlast).symm⟩

end Card

end TimecodeCard
