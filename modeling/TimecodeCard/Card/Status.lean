import TimecodeCard.Card.Model
import TimecodeCard.Register.Device

/-!
# Status registers of the card

Status registers 0 and 2 tell whether an audio interrupt is pending, where the hardware
pointer stands, and whether a time code module is there (`CardStatus`). The pointer is counted
in units of 64 bytes, that is of 16 frames (`CardStatus.hardwarePointer`). Which of the two
detection bits counts depends on the model (`CardStatus.hasModule`).

The layout: in register 0 the interrupt in bit 0, the pointer in bits 6 to 15 and one detection
bit in bit 27; in register 2 the other detection bit in bit 3.
-/

namespace TimecodeCard

/-- Parameters in the status registers. -/
structure CardStatus where
  /-- Whether the interrupt of the audio period is pending. -/
  interruptPending : Bool := false
  /-- The position in the hardware buffer, in units of 16 frames. -/
  bufferPointer : Nat := 0
  /-- The detection bit in register 0, used by MADI and AES. -/
  detected0 : Bool := false
  /-- The detection bit in register 2, used by RayDAT, AIO and AIO Pro. -/
  detected2 : Bool := false
  deriving DecidableEq, Repr, Inhabited

namespace CardStatus

/-- The offset of register 0 on the read side. -/
def offset0 : Nat := 0

/-- The offset of register 2 on the read side. -/
def offset2 : Nat := 192

/-- The offset at which a write confirms the interrupt. -/
def confirmOffset : Nat := 96

/-- The quadlets of registers 0 and 2. -/
def encode (s : CardStatus) : Quadlet × Quadlet :=
  (Quadlet.flag 0 s.interruptPending
      ||| Quadlet.place 6 (BitVec.ofNat 10 s.bufferPointer)
      ||| Quadlet.flag 27 s.detected0,
    Quadlet.flag 3 s.detected2)

/-- The parameters in the quadlets of registers 0 and 2. -/
def decode (q0 q2 : Quadlet) : CardStatus where
  interruptPending := q0.getLsbD 0
  bufferPointer := (q0.slice 6 10).toNat
  detected0 := q0.getLsbD 27
  detected2 := q2.getLsbD 3

/-- The parameters in the first two quadlets of the list. -/
def decodeList : List Quadlet → Except Fault CardStatus
  | q0 :: q2 :: _ => .ok (decode q0 q2)
  | _ => .error .missingQuadlet

/-- The position of the hardware pointer in frames, which wraps around at `pointerSpan`. -/
def hardwarePointer (s : CardStatus) : Nat :=
  s.bufferPointer * 16 % pointerSpan

/-- Whether a card of the model has the time code module. MADIface has no slot for it. -/
def hasModule (s : CardStatus) : CardModel → Bool
  | .madi | .aes => s.detected0
  | .rayDat | .aio | .aioPro => s.detected2
  | .madiFace => false

variable {δ : Type} [Device δ]

/-- The parameters read from both registers. -/
def read (d : δ) : CardStatus × δ :=
  let (q0, d) := Device.read d offset0
  let (q2, d) := Device.read d offset2
  (decode q0 q2, d)

/-- The device after the pending interrupt is confirmed. -/
def confirm (d : δ) : δ :=
  Device.write d confirmOffset 0

end CardStatus

end TimecodeCard
