import TimecodeCard.Card.Operation
import TimecodeCard.Simulation.Simulator

/-!
# Test bench

A `Bench` is a card on simulated registers, with every access recorded and a clock that moves
only when it is told to. `Bench.perform` carries out an operation on the card at the time of the
clock; the other functions do what the world outside of the card does. `Bench.run` repeats
period, clock, MIDI messages and interrupt, as a card in use meets them.
-/

namespace TimecodeCard

/-- A card on simulated registers with its clock. -/
structure Bench where
  card : Card (Recorded Simulator)
  /-- The real time in nanoseconds since the epoch. -/
  now : Nat

namespace Bench

/-- A card of the model on registers at power on. -/
def powerOn (model : CardModel) (hasModule : Bool) (now : Nat) : Bench where
  card := Card.attach model { device := Simulator.powerOn model hasModule }
  now

/-- The simulated registers. -/
def registers (b : Bench) : Simulator :=
  b.card.device.device

/-- The bench with other registers, and the record kept. -/
def withRegisters (b : Bench) (s : Simulator) : Bench :=
  { b with card := { b.card with device := { b.card.device with device := s } } }

/-- The bench with an empty record of accesses. -/
def cleared (b : Bench) : Bench :=
  { b with card := { b.card with device := b.card.device.cleared } }

/-- The bench after the clock has moved; the clock is a word of 64 bits and wraps around. -/
def tick (b : Bench) (nanos : Nat) : Bench :=
  { b with now := (b.now + nanos) % 0x10000000000000000 }

/-- The bench after one period of the registers, and the time code frames which started. -/
def advance (b : Bench) : List FrameStart × Bench :=
  let (starts, s) := b.registers.advance
  (starts, b.withRegisters s)

/-- The bench after the operation on the card, and the report of it. -/
def perform (b : Bench) (op : Operation) : Except Fault (Bench × Report) := do
  let (card, report) ← b.card.perform b.now op
  return ({ b with card }, report)

/-- The bench after a write to the registers past the card. -/
def poke (b : Bench) (offset : Nat) (q : Quadlet) : Bench :=
  { b with card := { b.card with device := Device.write b.card.device offset q } }

/-! ## Many periods -/

/-- What many periods amount to. -/
structure Tally where
  /-- The number of audio interrupts which were handled. -/
  interrupts : Nat := 0
  /-- The number of time code frames which started. -/
  starts : Nat := 0
  /-- The notices delivered, in order. -/
  notices : List Notice := []
  warnings : List Warning := []
  deriving DecidableEq, Repr, Inhabited

/-- The bench after the same MIDI message has arrived so many times. -/
def repeatMidi (bytes : List UInt8) : Nat → Bench → Except Fault Bench
  | 0, b => .ok b
  | n + 1, b => do
    let (b, _) ← b.perform (.midi bytes)
    repeatMidi bytes n b

/-- The bench after one period: the registers move, then the clock, then one MIDI message
arrives for each time code frame which started, then comes the interrupt. -/
def runPeriod (b : Bench) (nanos : Nat) (bytes : List UInt8) : Except Fault (Tally × Bench) := do
  let (starts, b) := b.advance
  let b ← repeatMidi bytes starts.length (b.tick nanos)
  let (b, report) ← b.perform .interrupt
  let tally := {
    interrupts := if report.answer = .flag true then 1 else 0
    starts := starts.length
    notices := report.notices
    warnings := report.warnings }
  return (tally, b)

/-- The bench after so many periods, added to what went before. The newest notices and warnings
come last. -/
def runFrom (nanos : Nat) (bytes : List UInt8) :
    Nat → Tally → Bench → Except Fault (Tally × Bench)
  | 0, tally, b => .ok (tally, b)
  | n + 1, tally, b => do
    let (period, b) ← b.runPeriod nanos bytes
    let tally := {
      interrupts := tally.interrupts + period.interrupts
      starts := tally.starts + period.starts
      notices := period.notices.reverse ++ tally.notices
      warnings := period.warnings.reverse ++ tally.warnings }
    runFrom nanos bytes n tally b

/-- The bench after so many periods, and what they amount to. -/
def run (b : Bench) (periods nanos : Nat) (bytes : List UInt8) : Except Fault (Tally × Bench) := do
  let (tally, b) ← runFrom nanos bytes periods {} b
  return ({ tally with
    notices := tally.notices.reverse
    warnings := tally.warnings.reverse }, b)

end Bench

end TimecodeCard
