import Mathlib.Tactic
import TimecodeCard.Proofs.Card.Effects

/-!
# Clients are told exactly what has changed

Interrupts, messages and polls change controls without a client asking for it. A client which holds
the values of the controls (`View`) and reads anew only those it is told of must not miss any.

`Card.Logged` keeps the operations along with their reports, because a notice of the time code at
the input depends on the messages since the last interrupt (`Card.heardSince`), for which the module
keeps a flag (`Card.Logged.hears`). The main result `Card.Logged.notified_exactly` says which
notices there are after an interrupt, a message and a poll, and that a client holds all values after
any run of these.
-/

namespace TimecodeCard

/-! ## Values of the controls -/

/-- The type of the values of the control. -/
abbrev Notice.Value : Notice → Type
  | .timeCodeIn => TimeCode
  | .pullFactorIn => Nat
  | .timeCodeValid | .dropFrameIn | .lock | .wordClockValid | .run => Bool
  | .rateIn => FrameRate
  | .videoFormat => Tco.VideoFormat
  | .videoRate => Tco.VideoRate
  | .wordClockSpeed => Tco.WordClockSpeed

/-- A value of each control. -/
abbrev View :=
  (n : Notice) → n.Value

/-- The view with the notified controls read anew. -/
def View.refresh (view current : View) (notices : List Notice) : View :=
  fun n => if n ∈ notices then current n else view n

/-- The values of the controls in the module. -/
def Tco.Module.view (m : Module) : View
  | .timeCodeIn => m.input.timeCode
  | .pullFactorIn => m.input.pullFactor
  | .timeCodeValid => m.status.signals.timeCodeValid
  | .rateIn => m.status.signals.rate
  | .dropFrameIn => m.status.signals.dropFrame
  | .lock => m.status.signals.locked
  | .videoFormat => m.status.signals.video
  | .videoRate => m.status.videoRate
  | .wordClockValid => m.status.signals.wordClockValid
  | .wordClockSpeed => m.status.signals.wordClockSpeed
  | .run => m.config.run

/-- If every other control has kept its value, the notified ones are all that has to be read. -/
lemma View.refresh_eq {view current : View} {notices : List Notice}
    (h : ∀ n, n ∉ notices → current n = view n) : view.refresh current notices = current := by
  funext n
  unfold refresh
  split
  · rfl
  · next hn => exact (h n hn).symm

variable {δ : Type} [Device δ]

/-! ## Notices of the module -/

/-- The input notifies of a time code whenever it publishes one, and of a pull factor which is
another one. -/
lemma Ltc.Tracker.mem_notices_iff {t : Tracker} {d : δ} {frames speed : Nat} {n : Notice} :
    (t.period d frames speed).2.1.contains n ↔
      n = .timeCodeIn ∧ t.fresh = true
        ∨ n = .pullFactorIn ∧ (t.period d frames speed).1.pullFactor ≠ t.pullFactor := by
  unfold period
  split
  · next hfresh =>
      simp only [publish, NoticeSet.contains_insertIf, NoticeSet.contains_insert,
        NoticeSet.contains_empty, Bool.or_eq_true, Bool.and_eq_true, decide_eq_true_eq, hfresh,
        and_true, Bool.false_eq_true, or_false]
      rw [or_comm, and_comm]
  · next hstale =>
      simp only [NoticeSet.contains_empty, Bool.false_eq_true, hstale, and_false, ne_eq,
        not_true_eq_false, or_self]

lemma Ltc.Tracker.period_of_stale {t : Tracker} (hstale : t.fresh = false) (d : δ)
    (frames speed : Nat) : (t.period d frames speed).1 = t := by
  rw [period, hstale]
  rfl

lemma Ltc.Tracker.fresh_period (t : Tracker) (d : δ) (frames speed : Nat) :
    (t.period d frames speed).1.fresh = false := by
  unfold period
  split
  · rfl
  · next hstale => exact Bool.eq_false_iff.mpr hstale

lemma Ltc.Output.mem_notices_iff {o : Output} {t : Target δ} {moment : Moment} {p : OutputPeriod δ}
    {n : Notice} (h : o.period t moment = .ok p) :
    p.notices.contains n ↔ n = .run ∧ ∃ r, o.pending = some r := by
  rcases period_cases h with ⟨hpending, rfl⟩ | ⟨r, s, hpending, -, rfl⟩
  · simp only [NoticeSet.contains_empty, hpending, Bool.false_eq_true, reduceCtorEq, exists_false,
      and_false]
  · simp only [NoticeSet.contains_insert, NoticeSet.contains_empty, Bool.or_false,
      decide_eq_true_eq, hpending, Option.some.injEq, exists_eq', and_true]

namespace Tco.Module

variable {m : Module} {d : δ} {n : Notice}

section Period

variable {frames periodSize speed now : Nat} {p : ModulePeriod δ}

lemma mem_notices_iff (h : m.period d frames periodSize speed now = .ok p) :
    p.notices.contains n ↔
      n = .timeCodeIn ∧ m.input.fresh = true
        ∨ n = .pullFactorIn ∧ p.module.input.pullFactor ≠ m.input.pullFactor
        ∨ n = .run ∧ ∃ r, m.output.pending = some r := by
  obtain ⟨o, houtput, rfl⟩ := period_cases h
  rw [NoticeSet.contains_union, Bool.or_eq_true, Ltc.Tracker.mem_notices_iff,
    Ltc.Output.mem_notices_iff houtput, or_assoc]

/-- A control which an interrupt does not notify of keeps its value. -/
lemma view_period (h : m.period d frames periodSize speed now = .ok p)
    (hn : p.notices.contains n = false) : p.module.view n = m.view n := by
  have hnot := mt (mem_notices_iff h).mpr (Bool.eq_false_iff.mp hn)
  obtain ⟨o, houtput, rfl⟩ := period_cases h
  cases n with
  | timeCodeIn =>
      have hstale : m.input.fresh = false := by
        by_contra hfresh
        exact hnot (.inl ⟨rfl, Bool.eq_true_of_not_eq_false hfresh⟩)
      exact congrArg Ltc.Tracker.timeCode (Ltc.Tracker.period_of_stale hstale d frames speed)
  | pullFactorIn =>
      by_contra hother
      exact hnot (.inr (.inl ⟨rfl, hother⟩))
  | run =>
      have hnone : m.output.pending = none := by
        rw [Option.eq_none_iff_forall_ne_some]
        intro r hr
        exact hnot (.inr (.inr ⟨rfl, r, hr⟩))
      show o.target.config.run = m.config.run
      rw [Ltc.Output.config_period houtput, hnone]
      exact Bool.or_false _
  | _ => rfl

end Period

/-- A poll notifies of every control which has another value in the status that was read. -/
lemma mem_statusNotices_iff (m : Module) (status : Status) :
    (statusNotices m.status status).contains n ↔ { m with status }.view n ≠ m.view n := by
  rw [ne_comm]
  cases n <;>
    simp only [statusNotices, view, NoticeSet.contains_insertIf, NoticeSet.contains_empty,
      reduceCtorEq, decide_true, decide_false, decide_eq_true_eq, Bool.and_true, Bool.and_false,
      Bool.or_false, Bool.false_or, Bool.false_eq_true, ne_eq, not_true_eq_false]

end Tco.Module

/-! ## Operations with their reports -/

/-- Whether the operation may change controls without a client asking for it: an interrupt, a
message or a poll. -/
def Operation.IsEvent : Operation → Prop
  | .interrupt | .midi _ | .poll => True
  | _ => False

/-- An operation at a real time, with what is in the registers then. -/
structure Occasion (δ : Type) where
  device : δ
  now : Nat
  op : Operation

namespace Card

/-- Whether a boundary has been heard since the last interrupt of the audio period, after one more
operation. -/
def heardAfter (heard : Bool) : Operation → Report → Bool
  | .interrupt, report => heard && report.answer ≠ .flag true
  | .midi bytes, _ => isBoundary bytes || heard
  | _, _ => heard

/-- Whether a boundary has been heard since the last interrupt of the audio period in the log, which
has the newest operation first. -/
def heardSince : List (Operation × Report) → Bool
  | [] => false
  | (op, report) :: log => heardAfter (heardSince log) op report

/-- The cards of the model which operations lead to, with the operations and their reports. What is
in the registers may change in between. -/
inductive Logged (model : CardModel) : List (Operation × Report) → Card δ → Prop
  | attach (d : δ) : Logged model [] (Card.attach model d)
  | change {log : List (Operation × Report)} {c : Card δ} (d : δ) :
    Logged model log c → Logged model log { c with device := d }
  | perform {log : List (Operation × Report)} {c c' : Card δ} {now : Nat} {op : Operation}
      {report : Report} :
    Logged model log c → c.perform now op = .ok (c', report) →
      Logged model ((op, report) :: log) c'

variable {model : CardModel} {log : List (Operation × Report)} {c c' : Card δ} {now : Nat}
  {op : Operation} {report : Report} {heard : Bool}

/-- Whether the module of the card, if it has one, knows of a boundary that was heard. -/
def Hears {δ : Type} (c : Card δ) (heard : Bool) : Prop :=
  ∀ m, c.module = some m → m.input.fresh = heard

namespace Hears

lemma of_module {δ : Type} {c : Card δ} {m : Tco.Module} (hmodule : c.module = some m)
    (hfresh : m.input.fresh = heard) : c.Hears heard := by
  intro m' hm'
  obtain rfl := Option.some.inj (hmodule.symm.trans hm')
  exact hfresh

lemma congr {δ : Type} {c c' : Card δ} {m m' : Tco.Module} (h : c.Hears heard)
    (hmodule : c.module = some m) (hmodule' : c'.module = some m')
    (hinput : m'.input = m.input) : c'.Hears heard := by
  refine of_module hmodule' ?_
  rw [hinput]
  exact h m hmodule

/-- **Step.** After every effect the module knows whether there was a boundary since the last
interrupt. -/
lemma of_effect (h : c.Hears heard) (heffect : Effect c now op c' report) :
    c'.Hears (heardAfter heard op report) := by
  cases heffect with
  | refuse hrefused =>
      cases op with
      | interrupt | midi => exact nomatch hrefused
      | _ => exact h
  | ignore _ =>
      show Hears _ (heard && true)
      rw [Bool.and_true]
      exact h
  | count _ _ hmodule =>
      intro m hm
      exact nomatch hmodule.symm.trans hm
  | serve _ _ hmodule hperiod =>
      obtain ⟨o, houtput, rfl⟩ := Tco.Module.period_cases hperiod
      refine of_module rfl ?_
      show Ltc.Tracker.fresh _ = (heard && false)
      rw [Bool.and_false]
      exact Ltc.Tracker.fresh_period _ _ _ _
  | @pass bytes hbytes =>
      intro m hm
      have hother : isBoundary bytes = false := by
        rw [Bool.eq_false_iff]
        intro hboundary
        exact nomatch (hbytes hboundary).symm.trans hm
      rw [heardAfter, hother, Bool.false_or]
      exact h m hm
  | hear hbytes _ hboundary =>
      obtain ⟨window, rfl⟩ := Tco.Module.exists_of_boundary hboundary
      refine of_module rfl ?_
      rw [heardAfter, hbytes, Bool.true_or]
  | poll hmodule => exact h.congr hmodule rfl rfl
  | terminate =>
      exact terminate_keeps (P := fun d : Card δ => d.Hears heard) h
        (fun _ hmodule => h.congr hmodule rfl rfl) fun _ hd => hd
  | writeRate _ _ hmodule =>
      intro m hm
      exact nomatch hmodule.symm.trans hm
  | @followRate rate m _ _ hmodule =>
      obtain ⟨sampleRate, cache, heq⟩ :=
        m.exists_followCard_eq (c.writeControl { c.control with rate }).device rate.base
      refine h.congr hmodule rfl ?_
      rw [heq]
  | configure hmodule _ =>
      refine h.congr hmodule rfl ?_
      rw [Tco.Module.configure_eq]
  | request hmodule | requestWide hmodule => exact h.congr hmodule rfl rfl
  | restore hmodule _ => exact h.congr hmodule rfl rfl
  | _ => exact h

end Hears

/-- **Run.** The flag of the module stands for a boundary since the last interrupt in the log. -/
lemma Logged.hears (h : Logged model log c) : c.Hears (heardSince log) := by
  induction h with
  | attach d =>
      intro m hm
      obtain ⟨d', rfl⟩ := exists_start_of_attach hm
      rfl
  | change d _ ih => exact ih
  | perform _ hperform ih => exact ih.of_effect (perform_effect hperform)

/-! ## Clients -/

/-- The view with the notified controls read anew from the card, if it has a module. -/
def tell {δ : Type} (c : Card δ) (view : View) (notices : List Notice) : View :=
  match c.module with
  | none => view
  | some m => view.refresh m.view notices

/-- The card after the operations, and the view of a client which reads anew what it is told of. -/
def watch? (c : Card δ) (view : View) : List (Occasion δ) → Except Fault (Card δ × View)
  | [] => .ok (c, view)
  | e :: events => do
    let (c', report) ← ({ c with device := e.device } : Card δ).perform e.now e.op
    c'.watch? (c'.tell view report.notices) events

variable {m : Tco.Module} {view : View}

lemma Effect.exists_view (h : Effect c now op c' report) (hevent : op.IsEvent)
    (hmodule : c.module = some m) :
    ∃ m', c'.module = some m' ∧ ∀ n, n ∉ report.notices → m'.view n = m.view n := by
  cases h with
  | refuse hrefused =>
      cases op with
      | interrupt | midi | poll => exact nomatch hrefused
      | _ => exact nomatch hevent
  | ignore _ | pass _ => exact ⟨m, hmodule, fun _ _ => rfl⟩
  | count _ _ hnone => exact nomatch hmodule.symm.trans hnone
  | serve _ _ hsome hperiod =>
      obtain rfl := Option.some.inj (hmodule.symm.trans hsome)
      refine ⟨_, rfl, ?_⟩
      intro n hn
      exact Tco.Module.view_period hperiod (Bool.eq_false_iff.mpr (mt NoticeSet.mem_toList.mpr hn))
  | hear _ hsome hboundary =>
      obtain rfl := Option.some.inj (hmodule.symm.trans hsome)
      obtain ⟨window, rfl⟩ := Tco.Module.exists_of_boundary hboundary
      refine ⟨_, rfl, ?_⟩
      intro n _
      cases n <;> rfl
  | skip hnone => exact nomatch hmodule.symm.trans hnone
  | poll hsome =>
      obtain rfl := Option.some.inj (hmodule.symm.trans hsome)
      refine ⟨_, rfl, ?_⟩
      intro n hn
      by_contra hother
      exact hn (NoticeSet.mem_toList.mpr ((m.mem_statusNotices_iff _).mpr hother))
  | _ => exact nomatch hevent

/-- **Run.** After any events, a client which has seen the values before them has seen the values
after them. The induction goes along the events, from whatever card there is. -/
lemma view_of_watch? {events : List (Occasion δ)} (hevents : ∀ e ∈ events, e.op.IsEvent)
    (hmodule : c.module = some m) (h : c.watch? m.view events = .ok (c', view)) :
    ∃ m', c'.module = some m' ∧ view = m'.view := by
  induction events generalizing c m with
  | nil =>
      obtain ⟨rfl, rfl⟩ := Prod.mk.inj (Except.ok.inj h)
      exact ⟨m, hmodule, rfl⟩
  | cons e events ih =>
      obtain ⟨⟨c₁, report⟩, hperform, h⟩ := exists_of_bind_eq_ok h
      obtain ⟨m₁, hmodule₁, hview⟩ :=
        (perform_effect hperform).exists_view (hevents e List.mem_cons_self) hmodule
      have htell : c₁.tell m.view report.notices = m₁.view := by
        unfold tell
        rw [hmodule₁]
        exact View.refresh_eq hview
      simp only [htell] at h
      exact ih (fun e he => hevents e (List.mem_cons_of_mem _ he)) hmodule₁ h

/-! ## Notices of events -/

lemma Logged.notices_interrupt (h : Logged model log c) (hmodule : c.module = some m)
    (hpending : (CardStatus.read c.device).1.interruptPending = true)
    (hperform : c.perform now .interrupt = .ok (c', report)) :
    ∃ m', c'.module = some m' ∧ report.answer = .flag true
      ∧ report.notices.Sublist Notice.all
      ∧ ∀ n, n ∈ report.notices ↔
        n = .timeCodeIn ∧ heardSince log = true
          ∨ n = .pullFactorIn ∧ m'.input.pullFactor ≠ m.input.pullFactor
          ∨ n = .run ∧ ∃ r, m.output.pending = some r := by
  obtain ⟨position, p, -, hperiod, rfl, rfl⟩ :=
    (perform_effect hperform).exists_period hpending hmodule
  refine ⟨_, rfl, rfl, NoticeSet.toList_sublist _, ?_⟩
  intro n
  rw [NoticeSet.mem_toList, Tco.Module.mem_notices_iff hperiod, h.hears m hmodule]

lemma perform_ignored (hpending : (CardStatus.read c.device).1.interruptPending = false) :
    c.perform now .interrupt
      = .ok ({ c with device := (CardStatus.read c.device).2 }, { answer := .flag false }) := by
  have hinterrupt : c.interrupt now
      = .ok { card := { c with device := (CardStatus.read c.device).2 }, handled := false } := by
    unfold Card.interrupt
    simp only [hpending, Bool.false_eq_true, if_false]
  rw [perform, hinterrupt]
  rfl

lemma notices_midi {bytes : List UInt8} (h : c.perform now (.midi bytes) = .ok (c', report)) :
    report.notices = [] := by
  cases perform_effect h with
  | refuse hrefused => exact nomatch hrefused
  | pass _ => rfl
  | hear _ _ _ => rfl

lemma notices_poll (hmodule : c.module = some m) (now : Nat) :
    ∃ c' m' report, c.perform now .poll = .ok (c', report) ∧ c'.module = some m'
      ∧ m' = { m with status := (Tco.Access.readStatus c.device).1 }
      ∧ report.notices.Sublist Notice.all
      ∧ ∀ n, n ∈ report.notices ↔ m'.view n ≠ m.view n := by
  have hpoll : c.poll = ((m.poll c.device).2.1,
      { c with module := some (m.poll c.device).1, device := (m.poll c.device).2.2 }) := by
    unfold Card.poll
    rw [hmodule]
  have hperform : c.perform now .poll = .ok (c.poll.2, { notices := c.poll.1.toList }) := rfl
  rw [hperform, hpoll]
  refine ⟨_, _, _, rfl, rfl, rfl, NoticeSet.toList_sublist _, ?_⟩
  intro n
  exact NoticeSet.mem_toList.trans (m.mem_statusNotices_iff _)

/-- **Clients are told exactly what has changed.** Notices come at most once each and in the order
of all notices. An interrupt of the audio period notifies of the time code at the input if a
boundary was heard since the last one, of the pull factor if it is another one, and of the output
running if a request is scheduled. Any other interrupt changes nothing on the card. A message
notifies of nothing, and a poll of what differs between the status that is read and the one held
before.

So a client which holds all values holds them after any run of these, whatever the registers are in
between, if it reads anew what it is told of. -/
theorem Logged.notified_exactly (h : Logged model log c) (hmodule : c.module = some m) :
    (∀ now c' report, (CardStatus.read c.device).1.interruptPending = true →
      c.perform now .interrupt = .ok (c', report) →
        ∃ m', c'.module = some m' ∧ report.answer = .flag true
          ∧ report.notices.Sublist Notice.all
          ∧ (∀ n, n ∈ report.notices ↔
            n = .timeCodeIn ∧ heardSince log = true
              ∨ n = .pullFactorIn ∧ m'.input.pullFactor ≠ m.input.pullFactor
              ∨ n = .run ∧ ∃ r, m.output.pending = some r)
          ∧ ∀ r, m.output.pending = some r →
            ∃ s, m'.output.last = some s
              ∧ Ltc.schedule? r (m.moment c'.position.frames c'.position.periodSize
                c.rate.speed.factor now) = .ok s)
      ∧ (∀ now, (CardStatus.read c.device).1.interruptPending = false →
        c.perform now .interrupt
          = .ok ({ c with device := (CardStatus.read c.device).2 }, { answer := .flag false }))
      ∧ (∀ now bytes c' report, c.perform now (.midi bytes) = .ok (c', report) →
        report.notices = [])
      ∧ (∀ now, ∃ c' m' report, c.perform now .poll = .ok (c', report) ∧ c'.module = some m'
        ∧ m' = { m with status := (Tco.Access.readStatus c.device).1 }
        ∧ report.notices.Sublist Notice.all
        ∧ ∀ n, n ∈ report.notices ↔ m'.view n ≠ m.view n)
      ∧ ∀ events c' view, (∀ e ∈ events, e.op.IsEvent) →
        c.watch? m.view events = .ok (c', view) →
          ∃ m', c'.module = some m' ∧ view = m'.view := by
  refine ⟨?_, fun _ => perform_ignored, fun _ _ _ _ => notices_midi, notices_poll hmodule,
    fun _ _ _ hevents => view_of_watch? hevents hmodule⟩
  intro now c' report hpending hperform
  obtain ⟨m', hmodule', hserved, hsublist, hmem⟩ :=
    h.notices_interrupt hmodule hpending hperform
  refine ⟨m', hmodule', hserved, hsublist, hmem, ?_⟩
  intro r hr
  obtain ⟨m'', s, hmodule'', hlast, hschedule⟩ :=
    (perform_effect hperform).exists_scheduled hserved hmodule hr
  obtain rfl := Option.some.inj (hmodule'.symm.trans hmodule'')
  exact ⟨s, hlast, hschedule⟩

/-- A boundary has been heard and a request waits when an interrupt comes, and a poll after it finds
the module locked. -/
theorem Logged.notified_exactly_locked :
    ∃ (log : List (Operation × Report)) (c c' c'' : Card Scripted) (m m'' : Tco.Module)
        (report : Report) (view : View),
      Logged .aio log c ∧ c.module = some m ∧ heardSince log = true
        ∧ c.perform 40000000 .interrupt = .ok (c', report)
        ∧ .timeCodeIn ∈ report.notices ∧ .run ∈ report.notices ∧ .lock ∉ report.notices
        ∧ c.watch? m.view [⟨⟨[1, 8, 5, 1, 5]⟩, 40000000, .interrupt⟩, ⟨⟨[5, 1]⟩, 0, .poll⟩]
          = .ok (c'', view)
        ∧ c''.module = some m'' ∧ view = m''.view ∧ view .lock = true := by
  have hattached : Logged .aio [] (Card.attach .aio (⟨[0, 8]⟩ : Scripted)) := .attach _
  have hheard := hattached.perform
    (show Card.perform _ 0 (.midi [0xf1, 0x00]) = .ok _ from rfl)
  have hrequested := hheard.perform
    (show Card.perform _ 0 (.request ⟨⟨0⟩, Ltc.Request.atOnce⟩) = .ok _ from rfl)
  have hraised := hrequested.change ⟨[1, 8, 5, 1, 5]⟩
  obtain ⟨hinterrupt, -, -, -, hwatch⟩ := notified_exactly hraised rfl
  obtain ⟨m', -, -, -, hmem, -⟩ := hinterrupt 40000000 _ _ rfl rfl
  obtain ⟨m'', hmodule'', hview⟩ := hwatch
    [⟨⟨[1, 8, 5, 1, 5]⟩, 40000000, .interrupt⟩, ⟨⟨[5, 1]⟩, 0, .poll⟩] _ _
    (by simp [Operation.IsEvent]) rfl
  refine ⟨_, _, _, _, _, m'', _, _, hraised, rfl, rfl, rfl, ?_, ?_, ?_, rfl, hmodule'', hview, rfl⟩
  · exact (hmem _).mpr (.inl ⟨rfl, rfl⟩)
  · exact (hmem _).mpr (.inr (.inr ⟨rfl, _, rfl⟩))
  · rw [hmem]
    simp

end Card

end TimecodeCard
