import TimecodeCard.Clock
import TimecodeCard.Register.Bank
import TimecodeCard.Tco.Signals

/-!
# Configuration of the time code module

The control bank carries the configuration in its quadlets 1 and 2 (`Config`). `Config.encode`
builds the bank. `Config.decode` reads one over a given configuration, because one code of the
source of synchronization and one of the word clock conversion mean nothing and leave the field
as it was.

The layout of quadlet 1: speed of word clock output in bits 1 and 2, drop frame in bit 9, frame
rate in bits 10 and 11. The layout of quadlet 2: run in bit 16, word clock conversion in bits 17
and 18, flywheel in bit 22, pull in bits 24 to 26, 48 kHz in bit 27, termination in bit 28,
source of synchronization in bits 29 and 30, and the rate of the card in bit 31.
-/

namespace TimecodeCard.Tco

/-! ## Synchronization -/

/-- Source of synchronization. -/
inductive SyncSource
  | wordClock
  | video
  | timeCode
  deriving DecidableEq, Repr

instance : Inhabited SyncSource := ⟨.wordClock⟩

/-- The code of the source. -/
def SyncSource.code : SyncSource → BitVec 2
  | .wordClock => 0
  | .video => 1
  | .timeCode => 2

/-- The source of the code, if it has one. -/
def SyncSource.ofCode? (c : BitVec 2) : Option SyncSource :=
  if c = 0 then some .wordClock
  else if c = 1 then some .video
  else if c = 2 then some .timeCode
  else none

/-! ## Sample rate -/

/-- Base rate of the sampling clock in the module. -/
inductive BaseRate
  | hz44100
  | hz48000
  deriving DecidableEq, Repr

instance : Inhabited BaseRate := ⟨.hz44100⟩

namespace BaseRate

/-- The base rate in hertz. -/
def hz : BaseRate → Nat
  | .hz44100 => 44100
  | .hz48000 => 48000

/-- The base rate at the base frequency of the card. The module has no 32 kHz. -/
def ofCard : BaseFrequency → BaseRate
  | .hz48000 => .hz48000
  | .hz32000 | .hz44100 => .hz44100

/-- The base rate which quadlet 2 of the control bank selects. -/
def ofQuadlet2 (q : Quadlet) : BaseRate :=
  if q.getLsbD 27 then .hz48000 else .hz44100

end BaseRate

/-- Sample rate of the module. -/
inductive SampleRate
  /-- One base rate, whatever the card does. -/
  | fixed (base : BaseRate)
  /-- The base rate of the card, at present the given one. -/
  | ofCard (base : BaseRate)
  deriving DecidableEq, Repr

instance : Inhabited SampleRate := ⟨.fixed .hz44100⟩

namespace SampleRate

/-- The base rate in use. -/
def base : SampleRate → BaseRate
  | .fixed base => base
  | .ofCard base => base

/-- Whether the rate follows the card. -/
def followsCard : SampleRate → Bool
  | .fixed _ => false
  | .ofCard _ => true

end SampleRate

/-! ## Pull -/

/-- Pull of the sampling clock. -/
inductive Pull
  | none
  /-- Up by 0.1 per cent. -/
  | up
  /-- Down by 0.1 per cent. -/
  | down
  /-- Up by 4 per cent. -/
  | upFour
  /-- Down by 4 per cent. -/
  | downFour
  deriving DecidableEq, Repr

instance : Inhabited Pull := ⟨.none⟩

namespace Pull

/-- The code of the pull: the flag for 4 per cent, then for down, then for up. -/
def code : Pull → BitVec 3
  | .none => 0
  | .up => 0b100
  | .down => 0b010
  | .upFour => 0b101
  | .downFour => 0b011

/-- The pull of the code. Up wins over down, and 4 per cent of neither is no pull. -/
def ofCode (c : BitVec 3) : Pull :=
  if c.getLsbD 2 then
    if c.getLsbD 0 then .upFour else .up
  else if c.getLsbD 1 then
    if c.getLsbD 0 then .downFour else .down
  else
    .none

@[simp] theorem ofCode_code (p : Pull) : ofCode p.code = p := by
  cases p <;> rfl

end Pull

/-! ## Word clock conversion -/

/-- Conversion of word clock from input to output. -/
inductive WordClockConversion
  | identical
  /-- From 44.1 kHz to 48 kHz. -/
  | from441To480
  /-- From 48 kHz to 44.1 kHz. -/
  | from480To441
  deriving DecidableEq, Repr

instance : Inhabited WordClockConversion := ⟨.identical⟩

/-- The code of the conversion. -/
def WordClockConversion.code : WordClockConversion → BitVec 2
  | .identical => 0
  | .from441To480 => 1
  | .from480To441 => 2

/-- The conversion of the code, if it has one. -/
def WordClockConversion.ofCode? (c : BitVec 2) : Option WordClockConversion :=
  if c = 0 then some .identical
  else if c = 1 then some .from441To480
  else if c = 2 then some .from480To441
  else none

/-! ## The bank -/

/-- Configuration of the time code module. -/
structure Config where
  syncSource : SyncSource := .wordClock
  /-- The frame rate of the time code output. -/
  rate : FrameRate := .fps24
  /-- Whether the output counts with dropped numbers. -/
  dropFrame : Bool := false
  sampleRate : SampleRate := .fixed .hz44100
  pull : Pull := .none
  conversion : WordClockConversion := .identical
  /-- Whether the word clock input is terminated by 75 ohm. -/
  termination : Bool := false
  /-- The speed of the word clock output. -/
  outputSpeed : WordClockSpeed := .single
  /-- Whether the time code output runs. -/
  run : Bool := false
  flywheel : Bool := false
  deriving DecidableEq, Repr, Inhabited

namespace Config

/-- The control bank of the configuration. -/
def encode (c : Config) : Bank where
  q1 := Quadlet.place 1 c.outputSpeed.code
    ||| Quadlet.flag 9 c.dropFrame
    ||| Quadlet.place 10 c.rate.code
  q2 := Quadlet.flag 16 c.run
    ||| Quadlet.place 17 c.conversion.code
    ||| Quadlet.flag 22 c.flywheel
    ||| Quadlet.place 24 c.pull.code
    ||| Quadlet.flag 27 (c.sampleRate.base = .hz48000)
    ||| Quadlet.flag 28 c.termination
    ||| Quadlet.place 29 c.syncSource.code
    ||| Quadlet.flag 31 c.sampleRate.followsCard

/-- The configuration in the control bank, over the one known before. -/
def decode (before : Config) (b : Bank) : Config where
  syncSource := (SyncSource.ofCode? (b.q2.slice 29 2)).getD before.syncSource
  rate := .ofCode (b.q1.slice 10 2)
  dropFrame := b.q1.getLsbD 9
  sampleRate :=
    if b.q2.getLsbD 31 then .ofCard (.ofQuadlet2 b.q2) else .fixed (.ofQuadlet2 b.q2)
  pull := .ofCode (b.q2.slice 24 3)
  conversion := (WordClockConversion.ofCode? (b.q2.slice 17 2)).getD before.conversion
  termination := b.q2.getLsbD 28
  outputSpeed := .ofCode (b.q1.slice 1 2)
  run := b.q2.getLsbD 16
  flywheel := b.q2.getLsbD 22

/-- The configuration in the first four quadlets of the list, over the one known before. -/
def decodeList (before : Config) (qs : List Quadlet) : Except Fault Config :=
  (Bank.ofList? qs).map before.decode

end Config

end TimecodeCard.Tco
