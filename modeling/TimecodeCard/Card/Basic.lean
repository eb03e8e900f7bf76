import TimecodeCard.Card.Control
import TimecodeCard.Card.Position
import TimecodeCard.Card.Status
import TimecodeCard.Midi.TimeCodeMessage
import TimecodeCard.TimeCode.Wide
import TimecodeCard.Tco.Module

/-!
# The card

`Card` joins the control register, the position of the audio stream and, where there is one, the
time code module, on a device. Events of hardware are `Card.interrupt` and `Card.midi`; clients
start and stop the audio engine, change the length of the period and the clock rate, set
parameters of the module and ask for time code output.

An operation which the card refuses ends in `Refused`, with a cause and the card as the operation
has left it. Operations on the interrupt path may end in a `Fault`.
-/

namespace TimecodeCard

/-- State of the card, on a device. -/
structure Card (δ : Type) where
  device : δ
  model : CardModel
  control : Control
  position : Position
  /-- The number of interrupts handled. -/
  interrupts : Nat := 0
  /-- The time code module, if the card has one. -/
  module : Option Tco.Module
  deriving DecidableEq, Repr

/-- Parameters of the card, saved for a suspend. -/
structure SavedCard where
  control : Control := {}
  module : Option Tco.Saved := none
  deriving DecidableEq, Repr, Inhabited

/-- The outcome of an interrupt. -/
structure Interrupt (δ : Type) where
  card : Card δ
  /-- Whether the interrupt was one of the audio period. -/
  handled : Bool
  notices : NoticeSet := ∅
  warnings : List Warning := []

namespace Card

variable {δ : Type}

/-- Whether the audio engine runs. -/
def running (c : Card δ) : Bool :=
  c.control.started

/-- The nominal rate of the sampling clock. -/
def rate (c : Card δ) : ClockRate :=
  c.control.rate

/-- Whether the card has the time code module. -/
def hasModule (c : Card δ) : Bool :=
  c.module.isSome

variable [Device δ]

/-- The card with the control parameters written to the register. -/
def writeControl (c : Card δ) (control : Control) : Card δ :=
  { c with control, device := control.write c.device }

/-! ## Starting and ending -/

/-- The latency code of a card that was just attached. -/
def initialLatency : Nat := 6

/-- The card of the model on the device: the module is looked for and started, then the control
register is written. -/
def attach (model : CardModel) (d : δ) : Card δ :=
  let (status, d) := CardStatus.read d
  let control : Control := { latency := initialLatency }
  let periodSize := model.periodSize control.latency
  let position : Position := { periodSize, bufferSize := model.bufferSize periodSize }
  if status.hasModule model then
    let (module, d) := Tco.Module.start d
    writeControl { device := d, model, control, position, module := some module } control
  else
    writeControl { device := d, model, control, position, module := none } control

theorem model_attach (model : CardModel) (d : δ) : (attach model d).model = model := by
  unfold attach
  simp only
  split <;> rfl

/-- The module of a card that was just attached has been started, and nothing else. -/
theorem exists_start_of_attach {model : CardModel} {d : δ} {m : Tco.Module}
    (h : (attach model d).module = some m) : ∃ d' : δ, m = (Tco.Module.start d').1 := by
  unfold attach at h
  simp only at h
  split at h
  · exact ⟨_, (Option.some.inj h).symm⟩
  · exact nomatch h

/-- The card with the audio engine and its interrupts started. -/
def start (c : Card δ) : Card δ :=
  c.writeControl { c.control with started := true, interruptEnabled := true }

/-- The card with the audio engine and its interrupts stopped. -/
def stop (c : Card δ) : Card δ :=
  c.writeControl { c.control with started := false, interruptEnabled := false }

/-- The card with the time code output stopped. -/
def terminateModule (c : Card δ) : Card δ :=
  match c.module with
  | none => c
  | some m =>
    let (m, device) := m.terminate c.device
    { c with module := some m, device }

/-- The card with the time code output stopped, then the audio engine. -/
def terminate (c : Card δ) : Card δ :=
  let c := c.terminateModule
  if c.running then c.stop else c

/-! ## Events of hardware -/

/-- The card after it has handled an interrupt of the audio period, with the hardware pointer at
the interrupt. -/
def servePeriod (c : Card δ) (pointer now : Nat) : Except Fault (Interrupt δ) := do
  let interrupts ← Word.fit64 (c.interrupts + 1)
  let position ← c.position.update pointer
  let c := { c with interrupts, position }
  match c.module with
  | none => return { card := c, handled := true }
  | some m =>
    let p ← m.period c.device position.frames position.periodSize c.rate.speed.factor now
    return {
      card := { c with device := p.device, module := some p.module }
      handled := true
      notices := p.notices
      warnings := p.warnings }

/-- The card after an interrupt, at the given real time. An interrupt which is not one of the
audio period is left alone; any other is confirmed before it is handled. -/
def interrupt (c : Card δ) (now : Nat) : Except Fault (Interrupt δ) :=
  let (status, device) := CardStatus.read c.device
  if status.interruptPending then
    servePeriod { c with device := CardStatus.confirm device } status.hardwarePointer now
  else
    .ok { card := { c with device }, handled := false }

/-- Whether the bytes are a message at the boundary of a time code frame. -/
def isBoundary (bytes : List UInt8) : Bool :=
  (MidiMessage.parse bytes).any fun m => m.IsBoundary

/-- The card after a MIDI message from the module at the given real time, and whether the
message is at the boundary of a time code frame. -/
def midi (c : Card δ) (bytes : List UInt8) (now : Nat) : Except Fault (Bool × Card δ) :=
  if isBoundary bytes then
    match c.module with
    | none => .ok (true, c)
    | some m => (m.boundary now).map fun m => (true, { c with module := some m })
  else .ok (false, c)

/-- The card with the status of the module read anew, and the notices of what has changed. -/
def poll (c : Card δ) : NoticeSet × Card δ :=
  match c.module with
  | none => (∅, c)
  | some m =>
    let (m, notices, device) := m.poll c.device
    (notices, { c with module := some m, device })

/-! ## Period and rate -/

/-- The card with other lengths of period and buffer in its position. -/
def resize (c : Card δ) (periodSize : Nat) : Card δ :=
  { c with position := c.position.resize periodSize (c.model.bufferSize periodSize) }

/-- The card with another length of the period, refused while the card runs. -/
def setPeriodSize (c : Card δ) (size : Nat) : Except (Refused (Card δ)) (Card δ) :=
  if c.running then .error ⟨.periodWhileRunning, c⟩
  else
    match c.model.latencyCode? size with
    | none => .error ⟨.unsupportedPeriod size c.model, c⟩
    | some latency => .ok ((c.writeControl { c.control with latency }).resize size)

/-- The card with another clock rate, refused while the card runs, and whether the rate is
another one. A module which follows the card gets its new base rate. -/
def setRate (c : Card δ) (rate : ClockRate) : Except (Refused (Card δ)) (Bool × Card δ) :=
  if c.rate = rate then .ok (false, c)
  else if c.running then .error ⟨.rateWhileRunning, c⟩
  else
    let c := c.writeControl { c.control with rate }
    match c.module with
    | none => .ok (true, c)
    | some m =>
      let (_, m, device) := m.followCard c.device rate.base
      .ok (true, { c with module := some m, device })

/-! ## Time code module -/

/-- The card with a parameter of the module set, and whether that changed the configuration. -/
def setParam (c : Card δ) (p : Tco.Param) : Except (Refused (Card δ)) (Bool × Card δ) :=
  match c.module with
  | none => .error ⟨.noModule, c⟩
  | some m =>
    match m.setParam c.device p c.rate.base with
    | .ok (changed, m, device) => .ok (changed, { c with module := some m, device })
    | .error ⟨r, m, device⟩ => .error ⟨r, { c with module := some m, device }⟩

/-- The card with a request for the time code output waiting for the next interrupt. -/
def request (c : Card δ) (r : Ltc.Request) : Except (Refused (Card δ)) (Card δ) :=
  match c.module with
  | none => .error ⟨.noModule, c⟩
  | some m => .ok { c with module := some (m.request r) }

/-- The card with a request waiting, its time code given in the 64-bit layout. -/
def requestWide (c : Card δ) (code : BitVec 64) (target : Int) :
    Except (Refused (Card δ)) (Card δ) :=
  c.request { timeCode := .ofWide code, target }

/-- The time code at the input, in the 64-bit layout. -/
def timeCodeInWide (c : Card δ) : Except Rejection (BitVec 64) :=
  match c.module with
  | none => .error .noModule
  | some m => .ok m.input.timeCode.toWide

/-! ## Suspend -/

/-- What is saved of the card for a suspend. -/
def save (c : Card δ) : SavedCard :=
  { control := c.control, module := c.module.map Tco.Module.save }

/-- The card with the saved parameters written to the registers. -/
def restore (c : Card δ) (s : SavedCard) : Card δ :=
  let c := (c.writeControl s.control).resize (c.model.periodSize s.control.latency)
  match c.module, s.module with
  | some m, some s =>
    let (m, device) := m.restore c.device s
    { c with module := some m, device }
  | _, _ => c

end Card

end TimecodeCard
