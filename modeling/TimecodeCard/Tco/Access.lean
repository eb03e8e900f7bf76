import TimecodeCard.TimeCode.Basic
import TimecodeCard.Register.Device
import TimecodeCard.Tco.Config
import TimecodeCard.Tco.Status

/-!
# Register access of the time code module

The status bank lies at offset 256 of the read side and the control bank at offset 128 of the
write side. Whatever is written loses the topmost bit of each byte, which belongs to hardware
(`Access.writable`).

Hardware may replace the time code while it is read, so `Access.readTimeCode` reads quadlet 0
again after quadlet 1, and quadlet 1 once more if the time code has changed meanwhile. A time
code for output is written together with the offset at which it starts and a set request
(`Access.writeTimeCode`), and `Access.resetTimeCode` withdraws both.
-/

namespace TimecodeCard.Tco.Access

/-! ## Addresses -/

/-- The offset of the quadlet in the status bank. -/
def readOffset (n : Nat) : Nat := 256 + 4 * n

/-- The offset of the quadlet in the control bank. -/
def writeOffset (n : Nat) : Nat := 128 + 4 * n

/-- The offset of a quadlet in the status bank, a fault if 64 bits do not hold it. -/
def readOffset64 (n : Nat) : Except Fault Nat := do
  let bytes ← Word.fit64 (4 * n)
  Word.fit64 (256 + bytes)

/-- The offset of a quadlet in the control bank, a fault if 64 bits do not hold it. -/
def writeOffset64 (n : Nat) : Except Fault Nat := do
  let bytes ← Word.fit64 (4 * n)
  Word.fit64 (128 + bytes)

/-- The part of a quadlet which is written: all but the topmost bit of each byte. -/
def writable (q : Quadlet) : Quadlet :=
  q &&& 0x7f7f7f7f

variable {δ : Type} [Device δ]

/-! ## Quadlets and banks -/

/-- The quadlet of the status bank. -/
def read (d : δ) (n : Nat) : Quadlet × δ :=
  Device.read d (readOffset n)

/-- The device after the quadlet of the control bank is written. -/
def write (d : δ) (n : Nat) (q : Quadlet) : δ :=
  Device.write d (writeOffset n) (writable q)

/-- The quadlet of the status bank, for a number of any size. -/
def readAt (d : δ) (n : Nat) : Except Fault (Quadlet × δ) := do
  let offset ← readOffset64 n
  return Device.read d offset

/-- The device after the quadlet of the control bank is written, for a number of any size. -/
def writeAt (d : δ) (n : Nat) (q : Quadlet) : Except Fault δ := do
  let offset ← writeOffset64 n
  return Device.write d offset (writable q)

/-- The device after the whole control bank is written, quadlet 0 first. -/
def writeBank (d : δ) (b : Bank) : δ :=
  write (write (write (write d 0 b.q0) 1 b.q1) 2 b.q2) 3 b.q3

/-- The status read from the whole bank, quadlet 0 first. -/
def readStatus (d : δ) : Status × δ :=
  let (q0, d) := read d 0
  let (q1, d) := read d 1
  let (q2, d) := read d 2
  let (q3, d) := read d 3
  (.decode { q0, q1, q2, q3 }, d)

/-! ## Time code at the input -/

/-- A time code together with the input signals at the same time. -/
structure Reading where
  timeCode : TimeCode
  signals : Signals
  deriving DecidableEq, Repr

/-- The time code at the input with its signals. Quadlet 1 is read again if the time code
changed while it was read. -/
def readTimeCode (d : δ) : Reading × δ :=
  let (before, d) := read d 0
  let (signals, d) := read d 1
  let (code, d) := read d 0
  if code = before then
    ({ timeCode := ⟨code⟩, signals := .decode signals }, d)
  else
    let (signals, d) := read d 1
    ({ timeCode := ⟨code⟩, signals := .decode signals }, d)

/-! ## Time code at the output -/

/-- The parameters in quadlet 1 of the control bank, without set request and offset. -/
def withoutRequest (q1 : Quadlet) : Quadlet :=
  Quadlet.withBit 8 false (q1 &&& 0x0000ffff)

/-- Quadlet 1 of the control bank with the set request and the offset, which is taken as a word of
16 bits, and 14 of them are kept. -/
def withRequest (q1 : Quadlet) (offset : Int) : Quadlet :=
  Quadlet.withBit 8 true (q1 &&& 0x0000ffff)
    ||| Quadlet.placeSplit 16 ((BitVec.ofInt 16 offset).setWidth 14)

/-- The device after a request to start the time code so many samples after the next interrupt.
The other parameters of quadlet 1 are given. -/
def writeTimeCode (d : δ) (t : TimeCode) (offset : Int) (q1 : Quadlet) : δ :=
  write (write d 0 t.code) 1 (withRequest q1 offset)

/-- The device after the request and its offset are withdrawn. -/
def resetTimeCode (d : δ) (q1 : Quadlet) : δ :=
  write d 1 (withoutRequest q1)

/-! ## Single bits of quadlet 2 -/

/-- Quadlet 2 of the control bank with the run bit set or cleared. -/
def withRun (run : Bool) (q2 : Quadlet) : Quadlet :=
  Quadlet.withBit 16 run q2

/-- Quadlet 2 of the control bank with the base rate selected. -/
def withBaseRate (rate : BaseRate) (q2 : Quadlet) : Quadlet :=
  Quadlet.withBit 27 (rate = .hz48000) q2

/-! ## Startup of the output -/

/-- The number of samples, at single speed, which hardware takes to start the time code
output. -/
def startupLatency : FrameRate → BaseRate → Nat
  | .fps24, .hz44100 => 13
  | .fps24, .hz48000 => 16
  | .fps25, .hz44100 => 15
  | .fps25, .hz48000 => 16
  | .fps2997, .hz44100 => 13
  | .fps2997, .hz48000 => 14
  | .fps30, .hz44100 => 13
  | .fps30, .hz48000 => 14

end TimecodeCard.Tco.Access
