import Mathlib.Tactic
import TimecodeCard.Card.Operation

/-!
# What an operation does to the card

`Card.Effect` says what an operation comes to, with the card and the report after it: it is
refused for a reason which the card has beforehand (`Card.refusal?`), or it is done in one of a
few ways. A proof that operations keep something goes through these ways and need not know how
the card finds its way to one of them. What a refused operation leaves is read off its branches,
one by one (`Card.setPeriodSize_refused` and the lemmas after it).

`Card.perform_effect` says that there are no other ways. `Card.Effect.refused_iff` tells the
refusals from all others by their reports, `Card.Effect.exists_period` does so for the interrupts
which a module serves, and `Card.Effect.model_eq` and `Card.Effect.hasModule_eq` say what no
operation changes.
-/

namespace TimecodeCard

/-! ## Refusals -/

/-- The report of a rejection. -/
def Rejection.report (r : Rejection) : Report :=
  { answer := .rejected r, warnings := r.warnings }

/-- Why the parameter is refused, if it is. -/
def Tco.Param.refusal? : Param → Option Rejection
  | .choose choice index => if index < choice.count then none else some (.badIndex choice index)
  | _ => none

/-- A parameter is refused for its reason, or accepted if it has none. -/
theorem Tco.Param.apply_cases (p : Param) (config : Config) (card : BaseFrequency) :
    (∃ config', p.apply config card = .ok config' ∧ p.refusal? = none)
      ∨ ∃ r, p.apply config card = .error r ∧ p.refusal? = some r := by
  cases p with
  | choose choice index =>
      have hsome : (choose? config card index choice).isSome ↔ index < choice.count :=
        isSome_choose?_iff
      rw [apply, refusal?]
      cases hchoose : choose? config card index choice with
      | none =>
          rw [hchoose] at hsome
          exact .inr ⟨_, rfl, if_neg fun hindex => nomatch hsome.mpr hindex⟩
      | some config' =>
          rw [hchoose] at hsome
          exact .inl ⟨config', rfl, if_pos (hsome.mp rfl)⟩
  | _ => exact .inl ⟨_, rfl, rfl⟩

/-- The entry is looked up before anything of the module or the device changes. -/
lemma Tco.Module.setParam_refused {δ : Type} [Device δ] {m : Module} {d : δ} {p : Param}
    {card : BaseFrequency} {r : Refused (Module × δ)} (h : m.setParam d p card = .error r) :
    p.refusal? = some r.reason ∧ r.after = (m, d) := by
  rcases p.apply_cases m.config card with ⟨config, happly, -⟩ | ⟨reason, happly, hreason⟩
  · rw [setParam, happly] at h
    exact nomatch h
  · rw [setParam, happly] at h
    obtain rfl := Except.error.inj h
    exact ⟨hreason, rfl⟩

namespace Card

variable {δ : Type}

/-- Why the operation on the card is refused, if it is. -/
def refusal? (c : Card δ) : Operation → Option Rejection
  | .setPeriodSize size =>
    if c.running then some .periodWhileRunning
    else if c.model.latencyCode? size = none then some (.unsupportedPeriod size c.model)
    else none
  | .setRate rate => if c.rate ≠ rate ∧ c.running then some .rateWhileRunning else none
  | .setParam p => if c.module = none then some .noModule else p.refusal?
  | .request _ | .requestWide _ _ => if c.module = none then some .noModule else none
  | _ => none

variable [Device δ]

/-! ## Effects -/

/-- The card at a served interrupt: the interrupt is confirmed and counted, and the position is
the one given. -/
def counted (c : Card δ) (position : Position) : Card δ :=
  { c with
    device := CardStatus.confirm (CardStatus.read c.device).2
    interrupts := c.interrupts + 1
    position }

/-- The card with the control parameters written to the register, and the lengths for them. -/
def rewritten (c : Card δ) (control : Control) : Card δ :=
  (c.writeControl control).resize (c.model.periodSize control.latency)

/-- What an operation at the real time comes to, with the card and the report after it. -/
inductive Effect (c : Card δ) (now : Nat) : Operation → Card δ → Report → Prop
  | refuse {op : Operation} {r : Rejection} (h : c.refusal? op = some r) :
      Effect c now op c r.report
  /-- An interrupt which is not one of the audio period. -/
  | ignore (hpending : (CardStatus.read c.device).1.interruptPending = false) :
      Effect c now .interrupt { c with device := (CardStatus.read c.device).2 }
        { answer := .flag false }
  | count {position : Position}
      (hpending : (CardStatus.read c.device).1.interruptPending = true)
      (hposition : c.position.update (CardStatus.read c.device).1.hardwarePointer = .ok position)
      (hmodule : c.module = none) :
      Effect c now .interrupt (c.counted position) { answer := .flag true }
  | serve {position : Position} {m : Tco.Module} {p : Tco.ModulePeriod δ}
      (hpending : (CardStatus.read c.device).1.interruptPending = true)
      (hposition : c.position.update (CardStatus.read c.device).1.hardwarePointer = .ok position)
      (hmodule : c.module = some m)
      (hperiod : m.period (c.counted position).device position.frames position.periodSize
        c.rate.speed.factor now = .ok p) :
      Effect c now .interrupt
        { c.counted position with device := p.device, module := some p.module }
        { answer := .flag true, notices := p.notices.toList, warnings := p.warnings }
  /-- A message which is not at a boundary, or which no module takes. -/
  | pass {bytes : List UInt8} (hbytes : isBoundary bytes = true → c.module = none) :
      Effect c now (.midi bytes) c { answer := .flag (isBoundary bytes) }
  | hear {bytes : List UInt8} {m m' : Tco.Module} (hbytes : isBoundary bytes = true)
      (hmodule : c.module = some m) (hboundary : m.boundary now = .ok m') :
      Effect c now (.midi bytes) { c with module := some m' } { answer := .flag true }
  | skip (hmodule : c.module = none) : Effect c now .poll c {}
  | poll {m : Tco.Module} (hmodule : c.module = some m) :
      Effect c now .poll
        { c with module := some (m.poll c.device).1, device := (m.poll c.device).2.2 }
        { notices := (m.poll c.device).2.1.toList }
  | start : Effect c now .start c.start {}
  | stop : Effect c now .stop c.stop {}
  | terminate : Effect c now .terminate c.terminate {}
  | resize {size latency : Nat} (hstopped : c.running = false)
      (hlatency : c.model.latencyCode? size = some latency) :
      Effect c now (.setPeriodSize size)
        ((c.writeControl { c.control with latency }).resize size) {}
  | keepRate {rate : ClockRate} (hrate : c.rate = rate) :
      Effect c now (.setRate rate) c { answer := .flag false }
  | writeRate {rate : ClockRate} (hrate : c.rate ≠ rate) (hstopped : c.running = false)
      (hmodule : c.module = none) :
      Effect c now (.setRate rate) (c.writeControl { c.control with rate })
        { answer := .flag true }
  | followRate {rate : ClockRate} {m : Tco.Module} (hrate : c.rate ≠ rate)
      (hstopped : c.running = false) (hmodule : c.module = some m) :
      Effect c now (.setRate rate)
        { c.writeControl { c.control with rate } with
          module := some
            (m.followCard (c.writeControl { c.control with rate }).device rate.base).2.1
          device := (m.followCard (c.writeControl { c.control with rate }).device rate.base).2.2 }
        { answer := .flag true }
  | configure {p : Tco.Param} {m : Tco.Module} {config : Tco.Config} (hmodule : c.module = some m)
      (happly : p.apply m.config c.rate.base = .ok config) :
      Effect c now (.setParam p)
        { c with
          module := some (m.configure c.device config).2.1
          device := (m.configure c.device config).2.2 }
        { answer := .flag (m.configure c.device config).1 }
  | request {r : Ltc.Request} {m : Tco.Module} (hmodule : c.module = some m) :
      Effect c now (.request r) { c with module := some (m.request r) } {}
  | requestWide {code : BitVec 64} {target : Int} {m : Tco.Module} (hmodule : c.module = some m) :
      Effect c now (.requestWide code target)
        { c with module := some (m.request { timeCode := .ofWide code, target }) } {}
  /-- A restore without a module on the card or without one that was saved. -/
  | reset {s : SavedCard} (hmissing : c.module = none ∨ s.module = none) :
      Effect c now (.restore s) (c.rewritten s.control) {}
  | restore {s : SavedCard} {m : Tco.Module} {t : Tco.Saved} (hmodule : c.module = some m)
      (hsaved : s.module = some t) :
      Effect c now (.restore s)
        { c.rewritten s.control with
          module := some (m.restore (c.rewritten s.control).device t).1
          device := (m.restore (c.rewritten s.control).device t).2 }
        {}

variable {c c' : Card δ} {now : Nat} {op : Operation} {report : Report}

/-! ## What a refused setting leaves

A setting which is refused stops at one of its checks, and nothing of the card has changed by
then. -/

lemma setPeriodSize_refused {size : Nat} {r : Refused (Card δ)}
    (h : c.setPeriodSize size = .error r) :
    c.refusal? (.setPeriodSize size) = some r.reason ∧ r.after = c := by
  unfold Card.setPeriodSize at h
  rw [refusal?]
  split at h
  · next hrunning =>
      obtain rfl := Except.error.inj h
      exact ⟨if_pos hrunning, rfl⟩
  · next hrunning =>
      split at h
      · next hlatency =>
          obtain rfl := Except.error.inj h
          rw [if_neg hrunning, if_pos hlatency]
          exact ⟨rfl, rfl⟩
      · exact nomatch h

lemma setRate_refused {rate : ClockRate} {r : Refused (Card δ)} (h : c.setRate rate = .error r) :
    c.refusal? (.setRate rate) = some r.reason ∧ r.after = c := by
  unfold Card.setRate at h
  rw [refusal?]
  split at h
  · exact nomatch h
  · next hrate =>
      split at h
      · next hrunning =>
          obtain rfl := Except.error.inj h
          exact ⟨if_pos ⟨hrate, hrunning⟩, rfl⟩
      · simp only at h
        split at h <;> exact nomatch h

lemma setParam_refused {p : Tco.Param} {r : Refused (Card δ)} (h : c.setParam p = .error r) :
    c.refusal? (.setParam p) = some r.reason ∧ r.after = c := by
  unfold Card.setParam at h
  rw [refusal?]
  split at h
  · next hmodule =>
      obtain rfl := Except.error.inj h
      exact ⟨if_pos hmodule, rfl⟩
  · next m hmodule =>
      split at h
      · exact nomatch h
      · next reason m' device hset =>
          -- The card takes back what it has handed out, the module and the device.
          obtain rfl := Except.error.inj h
          obtain ⟨hreason, hafter⟩ := Tco.Module.setParam_refused hset
          obtain ⟨rfl, rfl⟩ := Prod.mk.inj hafter
          rw [if_neg (by rw [hmodule]; exact Option.some_ne_none _)]
          exact ⟨hreason, by rw [← hmodule]⟩

omit [Device δ] in
lemma request_refused {r : Ltc.Request} {refused : Refused (Card δ)}
    (h : c.request r = .error refused) :
    c.module = none ∧ refused.reason = .noModule ∧ refused.after = c := by
  unfold Card.request at h
  split at h
  · next hmodule =>
      obtain rfl := Except.error.inj h
      exact ⟨hmodule, rfl, rfl⟩
  · exact nomatch h

/-! ## Each operation has an effect -/

lemma interrupt_effect {i : Interrupt δ} (h : c.interrupt now = .ok i) :
    Effect c now .interrupt i.card
      { answer := .flag i.handled, notices := i.notices.toList, warnings := i.warnings } := by
  unfold Card.interrupt at h
  simp only at h
  split at h
  · next hpending =>
      obtain ⟨interrupts, hinterrupts, h⟩ := exists_of_bind_eq_ok h
      obtain ⟨-, rfl⟩ := Word.fit64_eq_ok_iff.mp hinterrupts
      obtain ⟨position, hposition, h⟩ := exists_of_bind_eq_ok h
      simp only at h
      split at h
      · next hmodule =>
          obtain rfl := Except.ok.inj h
          exact .count hpending hposition hmodule
      · next m hmodule =>
          obtain ⟨p, hperiod, h⟩ := exists_of_bind_eq_ok h
          obtain rfl := Except.ok.inj h
          exact .serve hpending hposition hmodule hperiod
  · next hpending =>
      obtain rfl := Except.ok.inj h
      exact .ignore (Bool.eq_false_iff.mpr hpending)

lemma midi_effect {bytes : List UInt8} {b : Bool} (h : c.midi bytes now = .ok (b, c')) :
    Effect c now (.midi bytes) c' { answer := .flag b } := by
  unfold Card.midi at h
  split at h
  · next hbytes =>
      cases hmodule : c.module with
      | none =>
          simp only [hmodule] at h
          obtain ⟨rfl, rfl⟩ := Prod.mk.inj (Except.ok.inj h)
          rw [← hbytes]
          exact .pass fun _ => hmodule
      | some m =>
          simp only [hmodule] at h
          obtain ⟨m', hboundary, h⟩ := exists_of_map_eq_ok h
          obtain ⟨rfl, rfl⟩ := Prod.mk.inj h
          exact .hear hbytes hmodule hboundary
  · next hbytes =>
      obtain ⟨rfl, rfl⟩ := Prod.mk.inj (Except.ok.inj h)
      have hfalse : isBoundary bytes = false := Bool.eq_false_iff.mpr hbytes
      rw [← hfalse]
      exact .pass fun h => absurd h hbytes

lemma poll_effect (c : Card δ) (now : Nat) :
    Effect c now .poll c.poll.2 { notices := c.poll.1.toList } := by
  unfold Card.poll
  split
  · next hmodule => exact .skip hmodule
  · next m hmodule => exact .poll hmodule

lemma restore_effect (c : Card δ) (now : Nat) (s : SavedCard) :
    Effect c now (.restore s) (c.restore s) {} := by
  unfold Card.restore
  simp only
  split
  · next m t hmodule hsaved => exact .restore hmodule hsaved
  · next hmissing =>
      refine .reset ?_
      by_contra hboth
      obtain ⟨hmodule, hsaved⟩ := not_or.mp hboth
      obtain ⟨m, hm⟩ := Option.ne_none_iff_exists'.mp hmodule
      obtain ⟨t, ht⟩ := Option.ne_none_iff_exists'.mp hsaved
      exact hmissing m t hm ht

/-- An operation which may be refused is settled by its reason or by its result. -/
lemma settle_effect {α : Type} {x : Except (Refused (Card δ)) α} {f : α → Answer × Card δ}
    (herror : ∀ r, x = .error r → c.refusal? op = some r.reason ∧ r.after = c)
    (hok : ∀ a, x = .ok a → Effect c now op (f a).2 { answer := (f a).1 })
    (h : settle (x.map f) = (c', report)) : Effect c now op c' report := by
  cases x with
  | error r =>
      obtain ⟨rfl, rfl⟩ := Prod.mk.inj h
      obtain ⟨hreason, hafter⟩ := herror r rfl
      rw [hafter]
      exact .refuse hreason
  | ok a =>
      obtain ⟨rfl, rfl⟩ := Prod.mk.inj h
      exact hok a rfl

lemma setPeriodSize_effect {size : Nat}
    (h : settle ((c.setPeriodSize size).map ((Answer.done, ·))) = (c', report)) :
    Effect c now (.setPeriodSize size) c' report := by
  refine settle_effect (fun _ => setPeriodSize_refused) ?_ h
  intro a ha
  unfold Card.setPeriodSize at ha
  split at ha
  · exact nomatch ha
  · next hrunning =>
      split at ha
      · exact nomatch ha
      · next hlatency =>
          obtain rfl := Except.ok.inj ha
          exact .resize (Bool.eq_false_iff.mpr hrunning) hlatency

lemma setRate_effect {rate : ClockRate}
    (h : settle ((c.setRate rate).map fun (b, c) => (Answer.flag b, c)) = (c', report)) :
    Effect c now (.setRate rate) c' report := by
  refine settle_effect (fun _ => setRate_refused) ?_ h
  intro a ha
  unfold Card.setRate at ha
  split at ha
  · next hrate =>
      obtain rfl := Except.ok.inj ha
      exact .keepRate hrate
  · next hrate =>
      split at ha
      · exact nomatch ha
      · next hrunning =>
          have hstopped := Bool.eq_false_iff.mpr hrunning
          simp only at ha
          split at ha
          · next hmodule =>
              obtain rfl := Except.ok.inj ha
              exact .writeRate hrate hstopped hmodule
          · next m hmodule =>
              obtain rfl := Except.ok.inj ha
              exact .followRate hrate hstopped hmodule

lemma setParam_effect {p : Tco.Param}
    (h : settle ((c.setParam p).map fun (b, c) => (Answer.flag b, c)) = (c', report)) :
    Effect c now (.setParam p) c' report := by
  refine settle_effect (fun _ => setParam_refused) ?_ h
  intro a ha
  unfold Card.setParam at ha
  split at ha
  · exact nomatch ha
  · next m hmodule =>
      rcases p.apply_cases m.config c.rate.base with ⟨config, happly, -⟩ | ⟨r, happly, -⟩
      · rw [Tco.Module.setParam, happly] at ha
        obtain rfl := Except.ok.inj ha
        exact .configure hmodule happly
      · rw [Tco.Module.setParam, happly] at ha
        exact nomatch ha

lemma request_effect {r : Ltc.Request}
    (hrefused : c.module = none → c.refusal? op = some .noModule)
    (hdone : ∀ m, c.module = some m → Effect c now op { c with module := some (m.request r) } {})
    (h : settle ((c.request r).map ((Answer.done, ·))) = (c', report)) :
    Effect c now op c' report := by
  refine settle_effect ?_ ?_ h
  · intro refused hr
    obtain ⟨hmodule, hreason, hafter⟩ := request_refused hr
    rw [hreason]
    exact ⟨hrefused hmodule, hafter⟩
  · intro a ha
    unfold Card.request at ha
    split at ha
    · exact nomatch ha
    · next m hmodule =>
        obtain rfl := Except.ok.inj ha
        exact hdone m hmodule

/-- **Effects.** An operation which is carried out has one of the effects. -/
theorem perform_effect (h : c.perform now op = .ok (c', report)) : Effect c now op c' report := by
  cases op with
  | interrupt =>
      obtain ⟨i, hi, h⟩ := exists_of_bind_eq_ok h
      obtain ⟨rfl, rfl⟩ := Prod.mk.inj (Except.ok.inj h)
      exact interrupt_effect hi
  | midi bytes =>
      obtain ⟨⟨b, d⟩, hmidi, h⟩ := exists_of_bind_eq_ok h
      obtain ⟨rfl, rfl⟩ := Prod.mk.inj (Except.ok.inj h)
      exact midi_effect hmidi
  | poll =>
      obtain ⟨rfl, rfl⟩ := Prod.mk.inj (Except.ok.inj h)
      exact poll_effect c now
  | start =>
      obtain ⟨rfl, rfl⟩ := Prod.mk.inj (Except.ok.inj h)
      exact .start
  | stop =>
      obtain ⟨rfl, rfl⟩ := Prod.mk.inj (Except.ok.inj h)
      exact .stop
  | terminate =>
      obtain ⟨rfl, rfl⟩ := Prod.mk.inj (Except.ok.inj h)
      exact .terminate
  | setPeriodSize size => exact setPeriodSize_effect (Except.ok.inj h)
  | setRate rate => exact setRate_effect (Except.ok.inj h)
  | setParam p => exact setParam_effect (Except.ok.inj h)
  | request r =>
      exact request_effect (fun hnone => if_pos hnone) (fun _ hm => .request hm) (Except.ok.inj h)
  | requestWide code target =>
      exact request_effect (fun hnone => if_pos hnone) (fun _ hm => .requestWide hm)
        (Except.ok.inj h)
  | restore s =>
      obtain ⟨rfl, rfl⟩ := Prod.mk.inj (Except.ok.inj h)
      exact restore_effect c now s

/-! ## What effects have in common -/

lemma terminate_keeps {P : Card δ → Prop} (h : P c)
    (hmodule : ∀ m, c.module = some m →
      P { c with module := some (m.terminate c.device).1, device := (m.terminate c.device).2 })
    (hstop : ∀ c, P c → P c.stop) : P c.terminate := by
  have hterminated : P c.terminateModule := by
    unfold terminateModule
    split
    · exact h
    · next m hm => exact hmodule m hm
  unfold terminate
  simp only
  split
  · exact hstop _ hterminated
  · exact hterminated

namespace Effect

/-- The report of a refusal is that of no other effect. -/
theorem refused_iff (h : Effect c now op c' report) (r : Rejection) :
    report.answer = .rejected r ↔ c.refusal? op = some r := by
  cases h with
  | refuse h =>
      rw [h, Option.some.injEq]
      exact ⟨Answer.rejected.inj, congrArg _⟩
  | resize hstopped hlatency =>
      rw [refusal?, hstopped, hlatency]
      exact iff_of_false nofun nofun
  | keepRate hrate =>
      rw [refusal?, if_neg fun hrefused => hrefused.1 hrate]
      exact iff_of_false nofun nofun
  | writeRate _ hstopped _ | followRate _ hstopped _ =>
      rw [refusal?, if_neg fun hrefused => Bool.eq_false_iff.mp hstopped hrefused.2]
      exact iff_of_false nofun nofun
  | configure hmodule happly =>
      rw [refusal?, hmodule, if_neg nofun]
      rcases Tco.Param.apply_cases _ _ _ with ⟨_, _, hnone⟩ | ⟨r', herror, -⟩
      · rw [hnone]
        exact iff_of_false nofun nofun
      · exact nomatch happly.symm.trans herror
  | request hmodule | requestWide hmodule =>
      rw [refusal?, hmodule, if_neg nofun]
      exact iff_of_false nofun nofun
  | _ => exact iff_of_false nofun nofun

/-- A refusal leaves the card alone and notifies of nothing. -/
theorem of_refused (h : Effect c now op c' report) {r : Rejection}
    (hrefused : report.answer = .rejected r) : c' = c ∧ report = r.report := by
  cases h with
  | refuse _ =>
      obtain rfl := Answer.rejected.inj hrefused
      exact ⟨rfl, rfl⟩
  | _ => exact nomatch hrefused

theorem model_eq (h : Effect c now op c' report) : c'.model = c.model := by
  cases h with
  | terminate =>
      exact terminate_keeps (P := fun d : Card δ => d.model = c.model) rfl (fun _ _ => rfl)
        fun _ hd => hd
  | _ => rfl

theorem hasModule_eq (h : Effect c now op c' report) : c'.hasModule = c.hasModule := by
  cases h with
  | serve _ _ hmodule _ | hear _ hmodule _ | poll hmodule | followRate _ _ hmodule
  | configure hmodule _ | request hmodule | requestWide hmodule | restore hmodule _ =>
      exact (congrArg Option.isSome hmodule).symm
  | terminate =>
      exact terminate_keeps (P := fun d : Card δ => d.hasModule = c.hasModule) rfl
        (fun _ hmodule => (congrArg Option.isSome hmodule).symm) fun _ hd => hd
  | _ => rfl

/-- What is answered tells an interrupt of the audio period from any other. -/
lemma pending_of_served (h : Effect c now .interrupt c' report)
    (hserved : report.answer = .flag true) :
    (CardStatus.read c.device).1.interruptPending = true := by
  cases h with
  | refuse hrefused => exact nomatch hrefused
  | ignore _ => exact nomatch Answer.flag.inj hserved
  | count hpending _ _ => exact hpending
  | serve hpending _ _ _ => exact hpending

/-- An interrupt of the audio period on a card with the module. -/
theorem exists_period {m : Tco.Module} (h : Effect c now .interrupt c' report)
    (hpending : (CardStatus.read c.device).1.interruptPending = true)
    (hmodule : c.module = some m) :
    ∃ position p,
      c.position.update (CardStatus.read c.device).1.hardwarePointer = .ok position
        ∧ m.period (c.counted position).device position.frames position.periodSize
          c.rate.speed.factor now = .ok p
        ∧ c' = { c.counted position with device := p.device, module := some p.module }
        ∧ report
          = { answer := .flag true, notices := p.notices.toList, warnings := p.warnings } := by
  cases h with
  | refuse hrefused => exact nomatch hrefused
  | ignore hother => exact nomatch hpending.symm.trans hother
  | count _ _ hnone => exact nomatch hmodule.symm.trans hnone
  | serve _ hposition hsome hperiod =>
      obtain rfl := Option.some.inj (hmodule.symm.trans hsome)
      exact ⟨_, _, hposition, hperiod, rfl, rfl⟩

/-- A request which waits at an interrupt of the audio period is scheduled, by the module as it was
before. -/
theorem exists_scheduled {m : Tco.Module} {r : Ltc.Request}
    (h : Effect c now .interrupt c' report) (hserved : report.answer = .flag true)
    (hmodule : c.module = some m) (hpending : m.output.pending = some r) :
    ∃ m' s, c'.module = some m' ∧ m'.output.last = some s
      ∧ Ltc.schedule? r (m.moment c'.position.frames c'.position.periodSize
        c.rate.speed.factor now) = .ok s := by
  obtain ⟨position, p, -, hperiod, rfl, -⟩ :=
    h.exists_period (h.pending_of_served hserved) hmodule
  obtain ⟨o, houtput, rfl⟩ := Tco.Module.period_cases hperiod
  rcases Ltc.Output.period_cases houtput with ⟨hnone, -⟩ | ⟨r', s, hsome, hschedule, rfl⟩
  · exact nomatch hpending.symm.trans hnone
  · obtain rfl := Option.some.inj (hpending.symm.trans hsome)
    exact ⟨_, s, rfl, rfl, hschedule⟩

end Effect

end Card

end TimecodeCard
