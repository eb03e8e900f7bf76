import TimecodeCard.Card.Control
import TimecodeCard.Card.Status
import TimecodeCard.TimeCode.Step
import TimecodeCard.Tco.Access

/-!
# Simulated registers

`Simulator` is a device which behaves like a card at the level of registers. The audio engine
moves by whole periods (`Simulator.advance`): the hardware pointer moves on, the interrupt is
raised if it is enabled, and the time code at the input, if one is fed, runs along (`Feed`). A
period returns the boundaries of time code frames in it.

Without a time code module the registers of the module read as zero and ignore what is written.
-/

namespace TimecodeCard

/-! ## Time code at the input -/

/-- The start of a time code frame within a period. -/
structure FrameStart where
  timeCode : TimeCode
  /-- The number of samples, at single speed, from the start of the frame to the end of the
  period. -/
  samples : Nat
  deriving DecidableEq, Repr

/-- The time code which is fed to the input. -/
structure Feed where
  timeCode : TimeCode
  rate : FrameRate
  dropFrame : Bool
  /-- The number of samples, at single speed, since the time code started. -/
  elapsed : Nat
  deriving DecidableEq, Repr

namespace Feed

/-- The feed one time code frame later, with the samples of the frame used up. -/
def cross (f : Feed) (frameSize : Nat) : Feed :=
  { f with
    timeCode := f.timeCode.increment (f.rate.counting f.dropFrame)
    elapsed := f.elapsed - frameSize }

/-- The feed so many time code frames later, and the starts of these frames. -/
def crossAll (frameSize : Nat) : Nat → Feed → List FrameStart × Feed
  | 0, f => ([], f)
  | n + 1, f =>
    let f := f.cross frameSize
    let (starts, last) := crossAll frameSize n f
    ({ timeCode := f.timeCode, samples := f.elapsed } :: starts, last)

/-- The feed after the samples have gone by, and the time code frames which started. -/
def advance (f : Feed) (frameSize samples : Nat) : List FrameStart × Feed :=
  let f := { f with elapsed := f.elapsed + samples }
  crossAll frameSize (f.elapsed / frameSize) f

end Feed

/-! ## Registers -/

/-- The registers of a simulated card. -/
structure Simulator where
  model : CardModel
  /-- Whether the time code module is there. -/
  hasModule : Bool
  /-- The control register. -/
  control : Quadlet := 0
  interruptPending : Bool := false
  /-- The hardware pointer in frames. -/
  pointer : Nat := 0
  /-- The status bank of the module. -/
  statusBank : Bank
  /-- The control bank of the module. -/
  controlBank : Bank := {}
  feed : Option Feed := none
  deriving DecidableEq, Repr

namespace Simulator

/-- The version of the simulated firmware. -/
def firmware : Nat := 11

/-- The registers of a card of the model, at power on. -/
def powerOn (model : CardModel) (hasModule : Bool) : Simulator :=
  { model, hasModule, statusBank := Tco.Status.encode { firmware } }

/-- The parameters in the control register. -/
def controlParams (s : Simulator) : Control :=
  ({} : Control).decode s.control

/-- The status of the card. The module shows in the register which the model uses for it. -/
def cardStatus (s : Simulator) : CardStatus where
  interruptPending := s.interruptPending
  bufferPointer := s.pointer % pointerSpan / 16
  detected0 := s.hasModule && (s.model == .madi || s.model == .aes)
  detected2 := s.hasModule && s.model.hasFixedBuffer

/-! ## Access -/

/-- The number of the quadlet in a bank at the given offset, if the module is there and the
offset lies in the bank. -/
def bankIndex? (s : Simulator) (start offset : Nat) : Option Nat :=
  if s.hasModule ∧ start ≤ offset ∧ offset < start + 16 then some ((offset - start) / 4)
  else none

/-- The quadlet at the offset of the read side. -/
def readAt (s : Simulator) (offset : Nat) : Quadlet :=
  if offset = CardStatus.offset0 then s.cardStatus.encode.1
  else if offset = CardStatus.offset2 then s.cardStatus.encode.2
  else ((s.bankIndex? (Tco.Access.readOffset 0) offset).map s.statusBank.get).getD 0

/-- The registers after the quadlet is written at the offset of the write side. -/
def writeAt (s : Simulator) (offset : Nat) (q : Quadlet) : Simulator :=
  if offset = Control.offset then { s with control := q }
  else if offset = CardStatus.confirmOffset then { s with interruptPending := false }
  else
    match s.bankIndex? (Tco.Access.writeOffset 0) offset with
    | some n => { s with controlBank := s.controlBank.set n q }
    | none => s

instance : Device Simulator where
  read s offset := (s.readAt offset, s)
  write s offset q := s.writeAt offset q

/-! ## What happens outside -/

/-- The registers with the time code of the feed in the status bank. -/
def showFeed (s : Simulator) : Simulator :=
  match s.feed with
  | none => s
  | some f =>
    let signals : Tco.Signals :=
      { Tco.Signals.decode s.statusBank.q1 with
        timeCodeValid := true
        rate := f.rate
        dropFrame := f.dropFrame
        offset := f.elapsed % 0x4000 }
    { s with statusBank := { s.statusBank with q0 := f.timeCode.code, q1 := signals.encode } }

/-- The registers with a time code fed to the input. -/
def setFeed (s : Simulator) (f : Feed) : Simulator :=
  showFeed { s with feed := some f }

/-- The registers with another status of the module. -/
def setStatus (s : Simulator) (status : Tco.Status) : Simulator :=
  { s with statusBank := status.encode }

/-- The registers after one period of a running audio engine, and the time code frames which
started in it. A stopped engine does not move. -/
def advance (s : Simulator) : List FrameStart × Simulator :=
  let control := s.controlParams
  if ¬ control.started then ([], s)
  else
    let periodSize := s.model.periodSize control.latency
    let s := { s with
      pointer := (s.pointer + periodSize) % pointerSpan
      interruptPending := s.interruptPending || control.interruptEnabled }
    match s.feed with
    | none => ([], s)
    | some f =>
      let frameSize := f.rate.frameSize (Tco.BaseRate.ofCard control.rate.base).hz
      let (starts, f) := f.advance frameSize (periodSize / control.rate.speed.factor)
      (starts, showFeed { s with feed := some f })

end Simulator

end TimecodeCard
