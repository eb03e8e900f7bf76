/-!
# MIDI time code messages

The time code module announces time code by MIDI messages of two kinds: full frames, which
carry a whole time code, and quarter frames, which carry one nibble of it (`MidiMessage`).
`MidiMessage.parse` recognises them in a string of bytes and `MidiMessage.bytes` writes them.
A full frame and the quarter frames number 0 and 4 stand at the boundary of a time code frame
(`MidiMessage.IsBoundary`).
-/

namespace TimecodeCard

/-- Message of MIDI time code. -/
inductive MidiMessage
  /-- A whole time code. The rate is 0 for 24, 1 for 25, 2 for 29.97 and 3 for 30 frames. -/
  | fullFrame (rate hours minutes seconds frames : Nat)
  /-- One nibble of a time code, with its number among the eight. -/
  | quarterFrame (piece value : Nat)
  deriving DecidableEq, Repr

namespace MidiMessage

/-- The message in the bytes, if they are one of time code. -/
def parse : List UInt8 → Option MidiMessage
  | [0xf0, 0x7f, 0x7f, 0x01, 0x01, rateHours, minutes, seconds, frames, 0xf7] =>
    some (.fullFrame (rateHours.toNat / 32 % 4) (rateHours.toNat % 32) minutes.toNat
      seconds.toNat frames.toNat)
  | [0xf1, data] =>
    if data < 0x80 then some (.quarterFrame (data.toNat / 16) (data.toNat % 16)) else none
  | _ => none

/-- The bytes of the message. -/
def bytes : MidiMessage → List UInt8
  | .fullFrame rate hours minutes seconds frames =>
    [0xf0, 0x7f, 0x7f, 0x01, 0x01, UInt8.ofNat (rate * 32 + hours), UInt8.ofNat minutes,
      UInt8.ofNat seconds, UInt8.ofNat frames, 0xf7]
  | .quarterFrame piece value => [0xf1, UInt8.ofNat (piece * 16 + value)]

/-- Whether the message is sent at the boundary of a time code frame. -/
def IsBoundary : MidiMessage → Prop
  | .fullFrame .. => True
  | .quarterFrame piece _ => piece = 0 ∨ piece = 4

instance : (m : MidiMessage) → Decidable m.IsBoundary
  | .fullFrame .. => inferInstanceAs (Decidable True)
  | .quarterFrame .. => inferInstanceAs (Decidable (_ ∨ _))

end MidiMessage

end TimecodeCard
