import TimecodeCard.Notice
import TimecodeCard.Ltc.Window
import TimecodeCard.TimeCode.Step
import TimecodeCard.Tco.Access

/-!
# Tracker of the time code input

The boundaries of time code frames arrive as MIDI messages between the audio interrupts, and
the time code itself is read from registers at an interrupt. `Tracker.boundary` notes the
arrival of a boundary and the duration since the one before; a clock which went backward counts
as no time at all. `Tracker.period` publishes the time code with the frame at which it started
and the pull factor, once after any number of boundaries. Without a boundary since the last
interrupt it reads no register and changes nothing.

The time code in the registers is of the frame before the interrupt, so the published one is
its successor.
-/

namespace TimecodeCard.Ltc

/-- Phase of tracking the time code input. -/
inductive Phase
  /-- No boundary has arrived yet. -/
  | idle
  | tracking
  deriving DecidableEq, Repr

instance : Inhabited Phase := ⟨.idle⟩

/-- State of the time code input. -/
structure Tracker where
  /-- The time code last published. -/
  timeCode : TimeCode := ⟨0⟩
  /-- The absolute frame at which the time code started. -/
  startFrame : Nat := 0
  /-- The pull factor last published. -/
  pullFactor : Nat := nominalPull
  /-- The durations between the latest boundaries. -/
  window : Window := {}
  /-- When the latest boundary arrived, in nanoseconds. -/
  lastArrival : Option Nat := none
  /-- Whether a boundary has arrived since the last interrupt. -/
  fresh : Bool := false
  deriving DecidableEq, Repr

instance : Inhabited Tracker := ⟨{}⟩

namespace Tracker

/-- The phase of tracking. -/
def phase (t : Tracker) : Phase :=
  if t.lastArrival.isSome then .tracking else .idle

/-- The window with the duration from the latest boundary to now, if there was one. -/
def measure (t : Tracker) (now : Nat) : Except Fault Window :=
  match t.lastArrival with
  | none => .ok t.window
  | some before => t.window.record (now - before)

/-- The tracker after a boundary has arrived. -/
def boundary (t : Tracker) (now : Nat) : Except Fault Tracker :=
  (t.measure now).map fun window => { t with window, lastArrival := some now, fresh := true }

/-- The tracker after the time code is read at an interrupt, with the notices of what is
published. The offset in the reading is counted at single speed. -/
def publish (t : Tracker) (reading : Tco.Access.Reading) (frames speed : Nat) :
    Tracker × NoticeSet :=
  let signals := reading.signals
  let pullFactor := t.window.pullFactor signals.rate.fps
  ({ t with
      timeCode := reading.timeCode.increment (signals.rate.counting signals.dropFrame)
      startFrame := frames - signals.offset * speed
      pullFactor
      fresh := false },
    NoticeSet.insertIf (NoticeSet.insert ∅ .timeCodeIn) (pullFactor ≠ t.pullFactor)
      .pullFactorIn)

/-- The tracker after an audio interrupt at the absolute frame, with the notices of what is
published. -/
def period {δ : Type} [Device δ] (t : Tracker) (d : δ) (frames speed : Nat) :
    Tracker × NoticeSet × δ :=
  if t.fresh then
    let (reading, d) := Tco.Access.readTimeCode d
    let (t, notices) := t.publish reading frames speed
    (t, notices, d)
  else
    (t, ∅, d)

end Tracker

end TimecodeCard.Ltc
