import TimecodeCard.Register.Quadlet

/-!
# Register access

Everything the library knows of hardware is `Device`: quadlets are read and written at offsets
in two address spaces, and any access may change what later accesses find. So a device may
change its registers between two reads, and a statement about every device is one about every
behaviour of hardware.

Two devices are of general use. `Recorded` wraps another device and keeps the log of accesses.
`Scripted` answers reads with a given list of quadlets, whatever the offset.
-/

namespace TimecodeCard

/-- Access to the registers of a card. -/
class Device (δ : Type) where
  /-- The quadlet at the offset of the read side, and the device after the access. -/
  read : δ → Nat → Quadlet × δ
  /-- The device after the quadlet is written at the offset of the write side. -/
  write : δ → Nat → Quadlet → δ

/-! ## Recorded device -/

/-- A device with the log of accesses, newest first. -/
structure Recorded (δ : Type) where
  device : δ
  readLog : List Nat := []
  writeLog : List (Nat × Quadlet) := []

namespace Recorded

variable {δ : Type}

/-- The offsets read, oldest first. -/
def reads (r : Recorded δ) : List Nat :=
  r.readLog.reverse

/-- The offsets and quadlets written, oldest first. -/
def writes (r : Recorded δ) : List (Nat × Quadlet) :=
  r.writeLog.reverse

/-- The quadlet last written at the offset. -/
def lastWritten? (r : Recorded δ) (offset : Nat) : Option Quadlet :=
  r.writeLog.lookup offset

/-- The device with an empty log. -/
def cleared (r : Recorded δ) : Recorded δ :=
  { device := r.device }

end Recorded

instance {δ : Type} [Device δ] : Device (Recorded δ) where
  read r offset :=
    let (q, device) := Device.read r.device offset
    (q, { r with device, readLog := offset :: r.readLog })
  write r offset q :=
    { r with
      device := Device.write r.device offset q
      writeLog := (offset, q) :: r.writeLog }

/-! ## Scripted device -/

/-- The answers which reads still get, one each. -/
structure Scripted where
  answers : List Quadlet := []

instance : Device Scripted where
  read s _ :=
    match s.answers with
    | [] => (0, s)
    | q :: answers => (q, { answers })
  write s _ _ := s

end TimecodeCard
