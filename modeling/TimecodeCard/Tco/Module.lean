import TimecodeCard.Ltc.Output
import TimecodeCard.Ltc.Tracker
import TimecodeCard.Tco.Param

/-!
# Time code module

`Tco.Module` is what the card knows of its time code module: the configuration with the cached
control bank, the status as last polled, the input tracker and the output. Every change of the
configuration is written to the registers at once. An audio interrupt serves the input first and
then the output (`Module.period`); a poll compares the status with the one held before
(`Module.poll`).
-/

namespace TimecodeCard.Tco

/-- State of the time code module. -/
structure Module where
  config : Config := {}
  /-- The control bank as the configuration was last written, before the topmost bit of each
  byte is taken off. -/
  cache : Bank := {}
  /-- The status at the last poll. -/
  status : Status := {}
  input : Ltc.Tracker := {}
  output : Ltc.Output := {}
  /-- The absolute frame at the last audio interrupt. -/
  frames : Nat := 0
  deriving DecidableEq, Repr, Inhabited

/-- Configuration and control bank, saved for a suspend. -/
structure Saved where
  config : Config := {}
  cache : Bank := {}
  deriving DecidableEq, Repr, Inhabited

/-- The outcome of an interrupt for the module. -/
structure ModulePeriod (δ : Type) where
  module : Module
  device : δ
  notices : NoticeSet := ∅
  warnings : List Warning := []

namespace Module

variable {δ : Type} [Device δ]

/-! ## Configuration -/

/-- The module with the whole configuration written. -/
def writeConfig (m : Module) (d : δ) (config : Config) : Module × δ :=
  let cache := config.encode
  ({ m with config, cache }, Access.writeBank d cache)

/-- The module with the configuration written, unless it is in force already, and whether it was
written. -/
def configure (m : Module) (d : δ) (config : Config) : Bool × Module × δ :=
  if config = m.config then (false, m, d)
  else
    let (m, d) := m.writeConfig d config
    (true, m, d)

/-- The module with the parameter set, and whether that changed the configuration. -/
def setParam (m : Module) (d : δ) (p : Param) (card : BaseFrequency) :
    Except (Refused (Module × δ)) (Bool × Module × δ) :=
  match p.apply m.config card with
  | .ok config => .ok (m.configure d config)
  | .error r => .error ⟨r, m, d⟩

/-- The module with its base rate at that of the card, if it follows the card, and whether that
changed it. -/
def followCard (m : Module) (d : δ) (card : BaseFrequency) : Bool × Module × δ :=
  let base := BaseRate.ofCard card
  if m.config.sampleRate.followsCard ∧ m.config.sampleRate.base ≠ base then
    let q2 := Access.withBaseRate base m.cache.q2
    (true,
      { m with
        config := { m.config with sampleRate := .ofCard base }
        cache := { m.cache with q2 } },
      Access.write d 2 q2)
  else
    (false, m, d)

theorem configure_cases (m : Module) (d : δ) (config : Config) :
    (config = m.config ∧ m.configure d config = (false, m, d))
      ∨ config ≠ m.config ∧ m.configure d config = (true, m.writeConfig d config) := by
  unfold configure
  split
  · next hsame => exact .inl ⟨hsame, rfl⟩
  · next hother => exact .inr ⟨hother, rfl⟩

theorem configure_eq (m : Module) (d : δ) (config : Config) :
    (m.configure d config).2.1
      = { m with config, cache := if config = m.config then m.cache else config.encode } := by
  rcases m.configure_cases d config with ⟨rfl, heq⟩ | ⟨hother, heq⟩
  · rw [heq, if_pos rfl]
  · rw [heq, if_neg hother]
    rfl

/-- Following the card changes the sample rate and the bank, and nothing else. -/
theorem exists_followCard_eq (m : Module) (d : δ) (card : BaseFrequency) :
    ∃ sampleRate cache,
      (m.followCard d card).2.1 = { m with config := { m.config with sampleRate }, cache } := by
  unfold followCard
  simp only
  split
  · exact ⟨_, _, rfl⟩
  · exact ⟨m.config.sampleRate, m.cache, rfl⟩

/-! ## Starting and ending -/

/-- The module at its start: the configuration is written, then the status is read. -/
def start (d : δ) : Module × δ :=
  let (m, d) := ({} : Module).writeConfig d {}
  let (status, d) := Access.readStatus d
  ({ m with status }, d)

/-- The module with the time code output stopped and any request gone. -/
def terminate (m : Module) (d : δ) : Module × δ :=
  let (output, t) := m.output.terminate { config := m.config, cache := m.cache, device := d }
  ({ m with output, config := t.config, cache := t.cache }, t.device)

/-- What is saved of the module for a suspend. -/
def save (m : Module) : Saved :=
  { config := m.config, cache := m.cache }

/-- The module with the saved configuration and control bank, which are written as they are. -/
def restore (m : Module) (d : δ) (s : Saved) : Module × δ :=
  ({ m with config := s.config, cache := s.cache }, Access.writeBank d s.cache)

/-! ## Time code -/

/-- The module with the request waiting for the next interrupt. -/
def request (m : Module) (r : Ltc.Request) : Module :=
  { m with output := m.output.request r }

/-- The module after the boundary of a time code frame has arrived. -/
def boundary (m : Module) (now : Nat) : Except Fault Module :=
  (m.input.boundary now).map fun input => { m with input }

/-- What a boundary comes to: its arrival is noted, with the durations up to it. -/
theorem exists_of_boundary {m m' : Module} {now : Nat} (h : m.boundary now = .ok m') :
    ∃ window, m' = { m with
      input := { m.input with window, lastArrival := some now, fresh := true } } := by
  obtain ⟨input, hinput, rfl⟩ := exists_of_map_eq_ok h
  obtain ⟨window, -, rfl⟩ := exists_of_map_eq_ok hinput
  exact ⟨window, rfl⟩

/-- What the output is scheduled by, at an interrupt at the absolute frame. -/
def moment (m : Module) (frames periodSize speed now : Nat) : Ltc.Moment where
  frames
  periodSize
  speed
  baseRate := .ofQuadlet2 m.cache.q2
  rate := m.config.rate
  dropFrame := m.config.dropFrame
  now

/-- The module after an audio interrupt at the absolute frame: input first, then output. -/
def period (m : Module) (d : δ) (frames periodSize speed now : Nat) :
    Except Fault (ModulePeriod δ) := do
  let (input, notices, d) := m.input.period d frames speed
  let p ← m.output.period { config := m.config, cache := m.cache, device := d }
    (m.moment frames periodSize speed now)
  return {
    module :=
      { m with
        frames
        input
        output := p.output
        config := p.target.config
        cache := p.target.cache }
    device := p.target.device
    notices := notices.union p.notices
    warnings := p.warnings }

/-- What an interrupt comes to: the input is served, and then the output with what it shares. -/
theorem period_cases {m : Module} {d : δ} {frames periodSize speed now : Nat} {p : ModulePeriod δ}
    (h : m.period d frames periodSize speed now = .ok p) :
    ∃ o : Ltc.OutputPeriod δ,
      m.output.period
          { config := m.config
            cache := m.cache
            device := (m.input.period d frames speed).2.2 }
          (m.moment frames periodSize speed now) = .ok o
        ∧ p = {
          module :=
            { m with
              frames
              input := (m.input.period d frames speed).1
              output := o.output
              config := o.target.config
              cache := o.target.cache }
          device := o.target.device
          notices := (m.input.period d frames speed).2.1.union o.notices
          warnings := o.warnings } := by
  obtain ⟨o, houtput, h⟩ := exists_of_bind_eq_ok h
  exact ⟨o, houtput, (Except.ok.inj h).symm⟩

/-! ## Status -/

/-- The notices of what differs between the status held before and the one read. -/
def statusNotices (before after : Status) : NoticeSet :=
  (∅ : NoticeSet)
    |>.insertIf (before.signals.timeCodeValid ≠ after.signals.timeCodeValid) .timeCodeValid
    |>.insertIf (before.signals.rate ≠ after.signals.rate) .rateIn
    |>.insertIf (before.signals.dropFrame ≠ after.signals.dropFrame) .dropFrameIn
    |>.insertIf (before.signals.video ≠ after.signals.video) .videoFormat
    |>.insertIf (before.signals.wordClockValid ≠ after.signals.wordClockValid) .wordClockValid
    |>.insertIf (before.signals.wordClockSpeed ≠ after.signals.wordClockSpeed) .wordClockSpeed
    |>.insertIf (before.signals.locked ≠ after.signals.locked) .lock
    |>.insertIf (before.videoRate ≠ after.videoRate) .videoRate

/-- The module with the status read anew, and the notices of what has changed. -/
def poll (m : Module) (d : δ) : Module × NoticeSet × δ :=
  let (status, d) := Access.readStatus d
  ({ m with status }, statusNotices m.status status, d)

end Module

end TimecodeCard.Tco
