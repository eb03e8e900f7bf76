import TimecodeCard.Simulation.Bench
import TimecodeCard.TimeCode.Text

/-!
# Sessions

A session runs a card on simulated registers for a number of audio periods and reports what came
of it. `Settings` say how: `Session.prepare` sets up the card, `Session.begin` asks for the time
code output and starts the engine, `Session.period` moves everything by one period, and
`Session.lines` is the report at the end. The whole course is `Session.run`.

Within a period the clock stops at each start of a time code frame, where the MIDI message for
it arrives, and then moves to the end of the period, where the interrupt is. Every sixteenth
period the status of the time code module is polled.
-/

namespace TimecodeCard

/-- How a session runs. -/
structure Settings where
  model : CardModel := .aio
  /-- Whether the card has the time code module. -/
  hasModule : Bool := true
  /-- The rate of the sampling clock in hertz. -/
  rate : Nat := 48000
  periodSize : Nat := 1024
  /-- The format of time code input and output. -/
  format : Format := .fps25
  /-- The number of periods. -/
  periods : Nat := 64
  /-- The time code at the input when the session starts. -/
  timeCodeIn : Option TimeCode := none
  request : Option Ltc.Request := none
  deriving DecidableEq, Repr, Inhabited

/-- State of a session. -/
structure Session where
  bench : Bench
  /-- The rate of the sampling clock. -/
  rate : ClockRate
  /-- The length of a period in nanoseconds. -/
  periodNanos : Nat
  /-- The number of time code frames which have started. -/
  starts : Nat := 0

namespace Session

/-! ## Preparing -/

/-- The index of the format in the list of formats. -/
def formatIndex (f : Format) : Nat :=
  Format.all.idxOf f

/-- The index of the last sample rate, which is that of the card. -/
def cardRateIndex : Nat := Choice.sampleRate.count - 1

/-- The card with the format of the time code set, and the module's rate following the card. -/
def configure {δ : Type} [Device δ] (c : Card δ) (f : Format) : Except Rejection (Card δ) := do
  let (_, c) ← (c.setParam (.choose .format (formatIndex f))).mapError Refused.reason
  let (_, c) ← (c.setParam (.choose .sampleRate cardRateIndex)).mapError Refused.reason
  return c

/-- The time code of the settings, fed to the input of the registers. -/
def feed (s : Settings) (registers : Simulator) : Simulator :=
  match s.timeCodeIn with
  | none => registers
  | some timeCode =>
    registers.setFeed
      { timeCode, rate := s.format.rate, dropFrame := s.format.dropFrame, elapsed := 0 }

/-- The bench with the format of the settings in its module, and their time code at the input. A
card without a module is left alone. -/
def prepareModule (s : Settings) (b : Bench) : Except Rejection Bench :=
  if b.card.hasModule then do
    let card ← configure b.card s.format
    let b : Bench := { b with card }
    return b.withRegisters (feed s b.registers)
  else .ok b

/-- The session at the clock rate, with its card set up. -/
def prepareAt (s : Settings) (now : Nat) (rate : ClockRate) : Except Rejection Session := do
  let b := Bench.powerOn s.model s.hasModule now
  let (_, card) ← (b.card.setRate rate).mapError Refused.reason
  let card ← (card.setPeriodSize s.periodSize).mapError Refused.reason
  let bench ← prepareModule s { b with card }
  return { bench, rate, periodNanos := s.periodSize * Ltc.nanosPerSecond / rate.hz }

/-- The session with its card set up, at the given start of the clock. -/
def prepare (s : Settings) (now : Nat) : Except Rejection Session :=
  match ClockRate.ofHz? s.rate with
  | none => .error (.unsupportedRate s.rate)
  | some rate => prepareAt s now rate

/-- The card with the time code output asked for, if there is a request. -/
def ask {δ : Type} (c : Card δ) : Option Ltc.Request → Except Rejection (Card δ)
  | none => .ok c
  | some r => (c.request r).mapError Refused.reason

/-- The session with the time code output asked for, and the audio engine started. -/
def begin (t : Session) (request : Option Ltc.Request) : Except Rejection Session :=
  (ask t.bench.card request).map fun card =>
    { t with bench := { t.bench with card := card.start } }

/-! ## Running -/

/-- The MIDI message for the start of a time code frame: the quarter frames number 0 and 4 by
turns. -/
def quarterFrame (starts : Nat) (timeCode : TimeCode) : MidiMessage :=
  if starts % 2 = 0 then .quarterFrame 0 (timeCode.fields.frames % 16)
  else .quarterFrame 4 (timeCode.fields.minutes % 16)

/-- The session after the start of a time code frame, when so much of the period has gone by;
also how much has gone by then. The samples are at single speed, and the factor is that of the
card. -/
def frameStart (factor : Nat) (t : Session) (elapsed : Nat) (start : FrameStart) :
    Except Fault (Nat × Session) := do
  let since := start.samples * Ltc.nanosPerSecond * factor / t.rate.hz
  let arrival := max (t.periodNanos - since) elapsed
  let nanos ← Word.minus arrival elapsed
  let (bench, _) ←
    (t.bench.tick nanos).perform (.midi (quarterFrame t.starts start.timeCode).bytes)
  return (arrival, { t with bench, starts := t.starts + 1 })

/-- The session after the starts of time code frames in a period, when so much of the period has
gone by; also how much has gone by then. -/
def frameStarts (factor elapsed : Nat) (t : Session) :
    List FrameStart → Except Fault (Nat × Session)
  | [] => .ok (elapsed, t)
  | start :: rest => do
    let (elapsed, t) ← t.frameStart factor elapsed start
    frameStarts factor elapsed t rest

/-- The session after one period. -/
def period (t : Session) : Except Fault Session := do
  let (starts, bench) := t.bench.advance
  let (elapsed, t) ← frameStarts bench.card.rate.speed.factor 0 { t with bench } starts
  let rest ← Word.minus t.periodNanos elapsed
  let (bench, _) ← (t.bench.tick rest).perform .interrupt
  return { t with bench }

/-- The number of periods from one poll of the status to the next. -/
def pollPeriods : Nat := 16

/-- The session after the status is polled, if it is time after the given number of periods. -/
def pollAfter (t : Session) (periods : Nat) : Session :=
  if periods % pollPeriods = 0 then
    { t with bench := { t.bench with card := t.bench.card.poll.2 } }
  else t

/-- The session after so many more periods, of which some are done. -/
def periods (done : Nat) : Nat → Session → Except Fault Session
  | 0, t => .ok t
  | n + 1, t => do
    let t ← t.period
    periods (done + 1) n (t.pollAfter (done + 1))

/-- The session with the card at rest. -/
def finish (t : Session) : Session :=
  { t with bench := { t.bench with card := t.bench.card.terminate } }

/-! ## Reporting -/

/-- The line about the card. -/
def cardLine {δ : Type} (c : Card δ) : String :=
  c.model.name ++ ": " ++ toString c.rate.hz ++ " Hz, " ++ toString c.position.periodSize
    ++ " frames per period, " ++ toString c.interrupts ++ " interrupts, frame count "
    ++ toString c.position.frames

/-- The line about the time code input. -/
def inputLine (m : Tco.Module) : String :=
  "TCO firmware " ++ toString m.status.firmware ++ ": LTC in " ++ m.input.timeCode.text
    ++ " started at " ++ toString m.input.startFrame ++ ", pull factor "
    ++ toString m.input.pullFactor

/-- The line about a start of the time code output. -/
def outputLine (s : Ltc.Scheduled) : String :=
  "LTC out " ++ s.timeCode.text ++ " started at " ++ toString s.startFrame ++ ", offset "
    ++ toString s.offset

/-- The lines about the time code module. -/
def moduleLines : Option Tco.Module → List String
  | none => ["TCO module is not detected"]
  | some m => inputLine m :: (m.output.last.map outputLine).toList

/-- The report of the session. -/
def lines (t : Session) : List String :=
  cardLine t.bench.card :: moduleLines t.bench.card.module

/-! ## The whole course -/

/-- How a session ends. -/
inductive Outcome
  /-- The session is over, with its report. -/
  | finished (report : List String)
  /-- The card refused what the settings ask for. -/
  | refused (r : Rejection)
  /-- A computation on the way had no result. -/
  | faulted (f : Fault)
  deriving DecidableEq, Repr

/-- The session of the settings, up to where its periods begin. -/
def open? (s : Settings) (now : Nat) : Except Rejection Session := do
  let t ← prepare s now
  t.begin s.request

/-- The session of the settings from the given start of the clock to its end. -/
def run (s : Settings) (now : Nat) : Outcome :=
  match open? s now with
  | .error r => .refused r
  | .ok t =>
    match periods 0 s.periods t with
    | .error f => .faulted f
    | .ok t => .finished t.finish.lines

end Session

end TimecodeCard
