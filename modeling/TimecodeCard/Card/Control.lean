import TimecodeCard.Clock
import TimecodeCard.Card.Model
import TimecodeCard.Register.Device

/-!
# Control register of the card

The control register holds the start of the audio engine, the latency code, the enabling of
the audio interrupt and the rate of the sampling clock (`Control`). `Control.encode` lays them
out; `Control.decode` reads them over given parameters, because an empty frequency field says
nothing and leaves the base frequency as it was.

The layout, from the lowest bit: start in bit 0, latency in bits 1 to 3, interrupt enable in
bit 5, base frequency in bits 6 and 7, double speed in bit 8, quadruple speed in bit 31, which
wins over double speed.
-/

namespace TimecodeCard

/-- The code of the base frequency; the code zero is left out. -/
def BaseFrequency.code : BaseFrequency → BitVec 2
  | .hz32000 => 1
  | .hz44100 => 2
  | .hz48000 => 3

/-- The base frequency of the code, if it has one. -/
def BaseFrequency.ofCode? (c : BitVec 2) : Option BaseFrequency :=
  if c = 1 then some .hz32000
  else if c = 2 then some .hz44100
  else if c = 3 then some .hz48000
  else none

/-- Parameters in the control register. -/
structure Control where
  /-- Whether the audio engine runs. -/
  started : Bool := false
  /-- The code for the length of the period. -/
  latency : Nat := 0
  /-- Whether an interrupt is raised each period. -/
  interruptEnabled : Bool := false
  /-- The nominal rate of the sampling clock. -/
  rate : ClockRate := {}
  deriving DecidableEq, Repr, Inhabited

namespace Control

/-- The offset of the register on the write side. -/
def offset : Nat := 64

/-- The quadlet of the parameters; a latency above the largest code counts like it. -/
def encode (c : Control) : Quadlet :=
  Quadlet.flag 0 c.started
    ||| Quadlet.place 1 (BitVec.ofNat 3 (min c.latency maxLatency))
    ||| Quadlet.flag 5 c.interruptEnabled
    ||| Quadlet.place 6 c.rate.base.code
    ||| Quadlet.flag 8 (c.rate.speed = .double)
    ||| Quadlet.flag 31 (c.rate.speed = .quadruple)

/-- The parameters of the quadlet, over those known before. -/
def decode (before : Control) (q : Quadlet) : Control where
  started := q.getLsbD 0
  latency := (q.slice 1 3).toNat
  interruptEnabled := q.getLsbD 5
  rate :=
    { base := (BaseFrequency.ofCode? (q.slice 6 2)).getD before.rate.base
      speed :=
        if q.getLsbD 31 then .quadruple
        else if q.getLsbD 8 then .double
        else .single }

/-- The parameters of the first quadlet in the list, over those known before. -/
def decodeList (before : Control) : List Quadlet → Except Fault Control
  | q :: _ => .ok (before.decode q)
  | [] => .error .missingQuadlet

/-- The device after the register is written. -/
def write {δ : Type} [Device δ] (c : Control) (d : δ) : δ :=
  Device.write d offset c.encode

end Control

end TimecodeCard
