import TimecodeCard.Notice
import TimecodeCard.Rejection
import TimecodeCard.Ltc.Schedule

/-!
# Time code output

Requests for the time code output wait in `Output` until the next audio interrupt, where the
latest one is scheduled and written to the registers (`Output.period`). Hardware picks it up at
the interrupt after that, and only then is the set request withdrawn, so the output is armed for
exactly one period. The request of an absent time code cancels a waiting one.

Besides the device, the output changes the configuration and the cached control bank of the time
code module, of which it owns the run bit.
-/

namespace TimecodeCard.Ltc

/-- State of the time code output. -/
structure Output where
  /-- The request which waits for the next interrupt. -/
  pending : Option Request := none
  /-- Whether a request is written and waits for hardware. -/
  armed : Bool := false
  /-- The start scheduled last. -/
  last : Option Scheduled := none
  deriving DecidableEq, Repr

instance : Inhabited Output := ⟨{}⟩

/-- What the output shares with the module: the configuration, the cached control bank, and the
device. -/
structure Target (δ : Type) where
  config : Tco.Config
  cache : Bank
  device : δ

/-- The outcome of an interrupt for the time code output. -/
structure OutputPeriod (δ : Type) where
  output : Output
  target : Target δ
  notices : NoticeSet := ∅
  warnings : List Warning := []

namespace Output

variable {δ : Type} [Device δ]

/-- The output with the request waiting, in place of any other. -/
def request (o : Output) (r : Request) : Output :=
  { o with pending := if r.timeCode.IsAbsent then none else some r }

/-- The target after the set request is withdrawn. -/
def disarm (t : Target δ) : Target δ :=
  { t with device := Tco.Access.resetTimeCode t.device t.cache.q1 }

/-- The target with the run bit in configuration, cache and hardware. -/
def setRun (run : Bool) (t : Target δ) : Target δ :=
  let q2 := Tco.Access.withRun run t.cache.q2
  { config := { t.config with run }
    cache := { t.cache with q2 }
    device := Tco.Access.write t.device 2 q2 }

/-- The target after the scheduled start is written, with the output running. The offset is handed
on in 32 bits. -/
def arm (s : Scheduled) (t : Target δ) : Target δ :=
  setRun true
    { t with
      device := Tco.Access.writeTimeCode t.device s.timeCode (Word.asSigned32 s.offset) t.cache.q1 }

/-- The warnings about the scheduled start. -/
def warningsOf (s : Scheduled) : List Warning :=
  if s.offset < 0 ∨ (Tco.maxOffset : Int) < s.offset then [.offsetOutOfRange s.offset] else []

/-- The output after an audio interrupt: a request which hardware has picked up is withdrawn,
then a waiting request is written. -/
def period (o : Output) (t : Target δ) (m : Moment) : Except Fault (OutputPeriod δ) := do
  let t := if o.armed then disarm t else t
  match o.pending with
  | none => return { output := { o with armed := false }, target := t }
  | some r =>
    let s ← schedule? r m
    return {
      output := { pending := none, armed := true, last := some s }
      target := arm s t
      notices := NoticeSet.insert ∅ .run
      warnings := warningsOf s }

/-- What an interrupt comes to. Either nothing waits, and all that is written withdraws the
request before, or what waits is scheduled and written after that. -/
theorem period_cases {o : Output} {t : Target δ} {m : Moment} {p : OutputPeriod δ}
    (h : o.period t m = .ok p) :
    (o.pending = none
        ∧ p = { output := { o with armed := false }
                target := if o.armed then disarm t else t })
      ∨ ∃ r s, o.pending = some r ∧ schedule? r m = .ok s
        ∧ p = { output := { pending := none, armed := true, last := some s }
                target := arm s (if o.armed then disarm t else t)
                notices := NoticeSet.insert ∅ .run
                warnings := warningsOf s } := by
  unfold period at h
  simp only at h
  split at h
  · next hpending => exact .inl ⟨hpending, (Except.ok.inj h).symm⟩
  · next r hpending =>
      obtain ⟨s, hschedule, h⟩ := exists_of_bind_eq_ok h
      exact .inr ⟨r, s, hpending, hschedule, (Except.ok.inj h).symm⟩

theorem pending_period {o : Output} {t : Target δ} {m : Moment} {p : OutputPeriod δ}
    (h : o.period t m = .ok p) : p.output.pending = none := by
  rcases period_cases h with ⟨hpending, rfl⟩ | ⟨r, s, -, -, rfl⟩
  · exact hpending
  · rfl

/-- Of the configuration, an interrupt changes the run bit, which a scheduled start sets. -/
theorem config_period {o : Output} {t : Target δ} {m : Moment} {p : OutputPeriod δ}
    (h : o.period t m = .ok p) :
    p.target.config = { t.config with run := t.config.run || o.pending.isSome } := by
  have hdisarmed : (if o.armed then disarm t else t).config = t.config := by
    split <;> rfl
  rcases period_cases h with ⟨hpending, rfl⟩ | ⟨r, s, hpending, -, rfl⟩
  · rw [hpending, Option.isSome_none, Bool.or_false]
    exact hdisarmed
  · rw [hpending, Option.isSome_some, Bool.or_true, ← hdisarmed]
    rfl

/-- The output stopped, with any request withdrawn or discarded. -/
def terminate (o : Output) (t : Target δ) : Output × Target δ :=
  ({ o with pending := none, armed := false }, disarm (setRun false t))

end Output

end TimecodeCard.Ltc
