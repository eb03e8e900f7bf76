import TimecodeCard.TimeCode.Basic
import TimecodeCard.Register.Bank
import TimecodeCard.Tco.Signals

/-!
# Status of the time code module

The status bank has four quadlets: the time code at the input, the input signals, the period of
word clock together with the frame rate of video, and the version of the firmware. `Status`
holds all of it, `Status.encode` and `Status.decode` convert.

The layout of quadlet 2: the period split over bits 0 to 6 and 8 to 14, the video rate in bits
27 to 30. In quadlet 3 the version takes bits 24 to 30.
-/

namespace TimecodeCard.Tco

/-! ## Video frame rate -/

/-- Frame rate of the video input. -/
inductive VideoRate
  | noLock
  | f2398
  | f24
  | f25
  | f2997
  | f30
  | f4795
  | f48
  | f50
  | f5994
  | f60
  /-- A code without a meaning. -/
  | reserved (code : Nat)
  deriving DecidableEq, Repr

instance : Inhabited VideoRate := ⟨.noLock⟩

namespace VideoRate

/-- The code of the rate. -/
def code : VideoRate → Nat
  | .noLock => 0
  | .f2398 => 1
  | .f24 => 2
  | .f25 => 3
  | .f2997 => 4
  | .f30 => 5
  | .f4795 => 6
  | .f48 => 7
  | .f50 => 8
  | .f5994 => 9
  | .f60 => 10
  | .reserved code => code

/-- The rate of the code. -/
def ofCode : Nat → VideoRate
  | 0 => .noLock
  | 1 => .f2398
  | 2 => .f24
  | 3 => .f25
  | 4 => .f2997
  | 5 => .f30
  | 6 => .f4795
  | 7 => .f48
  | 8 => .f50
  | 9 => .f5994
  | 10 => .f60
  | code => .reserved code

end VideoRate

/-! ## The bank -/

/-- Parameters in the status bank. -/
structure Status where
  /-- The time code at the input. -/
  timeCode : TimeCode := ⟨0⟩
  signals : Signals := {}
  /-- The period of word clock at 25 MHz, summed over 16 samples. -/
  wordClockPeriod : Nat := 0
  videoRate : VideoRate := .noLock
  firmware : Nat := 0
  deriving DecidableEq, Repr, Inhabited

namespace Status

/-- The bank of the parameters. -/
def encode (s : Status) : Bank where
  q0 := s.timeCode.code
  q1 := s.signals.encode
  q2 := Quadlet.placeSplit 0 (BitVec.ofNat 14 s.wordClockPeriod)
    ||| Quadlet.place 27 (BitVec.ofNat 4 s.videoRate.code)
  q3 := Quadlet.place 24 (BitVec.ofNat 7 s.firmware)

/-- The parameters in the bank. -/
def decode (b : Bank) : Status where
  timeCode := ⟨b.q0⟩
  signals := .decode b.q1
  wordClockPeriod := (b.q2.splitSlice 0).toNat
  videoRate := .ofCode (b.q2.slice 27 4).toNat
  firmware := (b.q3.slice 24 7).toNat

/-- The parameters in the first four quadlets of the list. -/
def decodeList (qs : List Quadlet) : Except Fault Status :=
  (Bank.ofList? qs).map decode

end Status

end TimecodeCard.Tco
