import TimecodeCard.Word
import TimecodeCard.TimeCode.FrameNumber
import TimecodeCard.Tco.Access

/-!
# Scheduling the time code output

Hardware starts a time code so many samples after the next audio interrupt. A `Request` asks for
a time code at an absolute frame, which may be past, too near or far ahead, so the start is
moved by whole time code frames into the window of one frame's length that opens two periods
after the current frame, and the time code is moved along (`schedule?`). All positions are
counted at single speed.

A request may also ask for the next start at once (a negative target), or for the time of the
real time clock, with an offset against UTC for target (`TimeCode.IsWallClock`).

Positions are 64-bit words, and each step of the computation which leaves them is a fault. The
number of frames to add to a time code, however, is handed on in 32 bits. A request may be so far
away that they do not hold its shift, so whole days are taken out first (`withinDay`).
-/

namespace TimecodeCard.Ltc

/-! ## Request and result -/

/-- Request to start the time code output. -/
structure Request where
  /-- The time code to start, or the one which asks for the real time clock. -/
  timeCode : TimeCode
  /-- The absolute frame at which the time code starts, a negative number to start at once, or
  the offset against UTC in seconds. -/
  target : Int
  deriving DecidableEq, Repr

/-- The target of a request to start at once. -/
def Request.atOnce : Int := -1

/-- What the schedule depends on besides the request. -/
structure Moment where
  /-- The absolute frame at the interrupt. -/
  frames : Nat
  /-- The number of frames per period. -/
  periodSize : Nat
  /-- The number of frames in one frame at single speed. -/
  speed : Nat
  baseRate : Tco.BaseRate
  rate : FrameRate
  dropFrame : Bool
  /-- The real time in nanoseconds since the epoch. -/
  now : Nat
  deriving DecidableEq, Repr

/-- A start of the time code output, at single speed. -/
structure Scheduled where
  /-- The time code which starts. -/
  timeCode : TimeCode
  /-- The frame at which it starts. -/
  startFrame : Int
  /-- The number of time code frames added to the requested one. -/
  shift : Int
  /-- The number of samples for hardware to wait after the next interrupt. -/
  offset : Int
  deriving DecidableEq, Repr

/-! ## The moment at single speed -/

namespace Moment

/-- The speed factor, at least one. -/
def factor (m : Moment) : Int :=
  max m.speed 1

/-- The absolute frame at the interrupt. -/
def current (m : Moment) : Int :=
  (Word.asSigned64 m.frames).tdiv m.factor

/-- The length of the period. -/
def period (m : Moment) : Int :=
  (m.periodSize : Int).tdiv m.factor

/-- The number of samples in a time code frame. -/
def frameSize (m : Moment) : Int :=
  m.rate.frameSize m.baseRate.hz

/-- How the time code numbers its frames. -/
def counting (m : Moment) : Counting :=
  m.rate.counting m.dropFrame

end Moment

/-! ## Scheduling -/

/-- The number of nanoseconds in a second. -/
def nanosPerSecond : Nat := 1000000000

/-- The time of day of the real time clock, in whole seconds, moved by the offset against UTC. -/
def wallClockTime? (now : Nat) (offset : Int) : Except Fault TimeCode := do
  let seconds ← Word.fitSigned64 ((now / nanosPerSecond : Nat) + offset)
  let time := (seconds % 86400).toNat
  return .ofFields
    { hours := time / 3600
      minutes := time / 60 % 60
      seconds := time % 60
      frames := 0 }

/-- The time code which the request asks for, and the frame at which it would start. A time of
the real time clock started with its second. -/
def Request.start? (r : Request) (m : Moment) : Except Fault (TimeCode × Int) := do
  if r.timeCode.IsWallClock then
    let timeCode ← wallClockTime? m.now r.target
    let samples := m.now % nanosPerSecond / (nanosPerSecond / m.baseRate.hz)
    let start ← Word.fitSigned64 (m.current - samples)
    return (timeCode, start)
  else if r.target < 0 then
    return (r.timeCode, m.current)
  else
    return (r.timeCode, r.target.tdiv m.factor)

/-- The number of time code frames by which the start moves into the window of one frame's
length from the lower bound. -/
def shift? (start lower frameSize : Int) : Except Fault Int := do
  let upper ← Word.fitSigned64 (lower + frameSize)
  if upper ≤ start then
    let ahead ← Word.fitSigned64 (start - lower)
    return -(ahead.tdiv frameSize)
  else if start < lower then
    let behind ← Word.fitSigned64 (lower - start)
    let reach ← Word.fitSigned64 (behind + frameSize)
    let reach ← Word.fitSigned64 (reach - 1)
    return reach.tdiv frameSize
  else
    return 0

/-- The shift reduced by whole days, to half a day at most either way. -/
def withinDay (c : Counting) (shift : Int) : Int :=
  let day : Int := c.framesPerDay
  let frames := shift % day
  if day / 2 < frames then frames - day else frames

/-- The start of the time code output for the request. -/
def schedule? (r : Request) (m : Moment) : Except Fault Scheduled := do
  let (timeCode, start) ← r.start? m
  let ahead ← Word.fitSigned64 (2 * m.period)
  let lower ← Word.fitSigned64 (m.current + ahead)
  let shift ← shift? start lower m.frameSize
  let moved ← Word.fitSigned64 (shift * m.frameSize)
  let startFrame ← Word.fitSigned64 (start + moved)
  let next ← Word.fitSigned64 (m.current + m.period)
  let wait ← Word.fitSigned64 (startFrame - next)
  let offset ← Word.fitSigned64 (wait - Tco.Access.startupLatency m.rate m.baseRate)
  return {
    timeCode := timeCode.addFrames m.counting (Word.asSigned32 (withinDay m.counting shift))
    startFrame
    shift
    offset }

end TimecodeCard.Ltc
