import TimecodeCard.TimeCode.Rate
import TimecodeCard.Register.Quadlet

/-!
# Input signals of the time code module

Quadlet 1 of the status bank tells what the module sees at its inputs: lock to the source of
synchronization, word clock, video, and linear time code with the sample offset since the
current frame started (`Signals`). `Signals.encode` and `Signals.decode` convert between the
parameters and the quadlet; the topmost bit of each byte belongs to hardware and is neither
read nor built.

The layout, from the lowest bit: lock in bit 0, word clock speed in bits 1 and 2, valid time
code in bit 3, valid word clock in bit 4, video format in bits 5 and 6, set request in bit 8,
drop frame in bit 9, frame rate in bits 10 and 11, quarter frame in bits 12 and 13, new quarter
frame in bit 14, and the offset split over bits 16 to 22 and 24 to 30.
-/

namespace TimecodeCard.Tco

/-! ## Enumerated fields -/

/-- Speed of word clock. -/
inductive WordClockSpeed
  | single
  | double
  | quadruple
  /-- The remaining code, which hardware does not define. -/
  | reserved
  deriving DecidableEq, Repr

instance : Inhabited WordClockSpeed := ⟨.single⟩

namespace WordClockSpeed

/-- The code of the speed. -/
def code : WordClockSpeed → BitVec 2
  | .single => 0
  | .double => 1
  | .quadruple => 2
  | .reserved => 3

/-- The speed of the code. -/
def ofCode (c : BitVec 2) : WordClockSpeed :=
  if c = 0 then .single else if c = 1 then .double else if c = 2 then .quadruple else .reserved

@[simp] theorem ofCode_code (s : WordClockSpeed) : ofCode s.code = s := by
  cases s <;> rfl

@[simp] theorem code_ofCode (c : BitVec 2) : (ofCode c).code = c := by
  revert c
  decide

end WordClockSpeed

/-- Format of the video input. -/
inductive VideoFormat
  | noVideo
  | ntsc
  | pal
  /-- Both flags at once, which hardware does not define. -/
  | reserved
  deriving DecidableEq, Repr

instance : Inhabited VideoFormat := ⟨.noVideo⟩

namespace VideoFormat

/-- The code of the format: the flag for NTSC, then the flag for PAL. -/
def code : VideoFormat → BitVec 2
  | .noVideo => 0
  | .ntsc => 1
  | .pal => 2
  | .reserved => 3

/-- The format of the code. -/
def ofCode (c : BitVec 2) : VideoFormat :=
  if c = 0 then .noVideo else if c = 1 then .ntsc else if c = 2 then .pal else .reserved

@[simp] theorem ofCode_code (f : VideoFormat) : ofCode f.code = f := by
  cases f <;> rfl

@[simp] theorem code_ofCode (c : BitVec 2) : (ofCode c).code = c := by
  revert c
  decide

end VideoFormat

/-! ## The quadlet -/

/-- Parameters in quadlet 1 of the status bank. -/
structure Signals where
  /-- Whether the module is locked to its source of synchronization. -/
  locked : Bool := false
  wordClockSpeed : WordClockSpeed := .single
  timeCodeValid : Bool := false
  wordClockValid : Bool := false
  video : VideoFormat := .noVideo
  /-- The echo of a request to set the time code. -/
  setRequest : Bool := false
  dropFrame : Bool := false
  rate : FrameRate := .fps24
  quarterFrame : Nat := 0
  newQuarterFrame : Bool := false
  /-- The number of samples since the current frame of time code started. -/
  offset : Nat := 0
  deriving DecidableEq, Repr, Inhabited

/-- The largest sample offset, which 14 bits hold. -/
def maxOffset : Nat := 16383

namespace Signals

/-- The quadlet of the parameters. -/
def encode (s : Signals) : Quadlet :=
  Quadlet.flag 0 s.locked
    ||| Quadlet.place 1 s.wordClockSpeed.code
    ||| Quadlet.flag 3 s.timeCodeValid
    ||| Quadlet.flag 4 s.wordClockValid
    ||| Quadlet.place 5 s.video.code
    ||| Quadlet.flag 8 s.setRequest
    ||| Quadlet.flag 9 s.dropFrame
    ||| Quadlet.place 10 s.rate.code
    ||| Quadlet.place 12 (BitVec.ofNat 2 s.quarterFrame)
    ||| Quadlet.flag 14 s.newQuarterFrame
    ||| Quadlet.placeSplit 16 (BitVec.ofNat 14 s.offset)

/-- The parameters in the quadlet. -/
def decode (q : Quadlet) : Signals where
  locked := q.getLsbD 0
  wordClockSpeed := .ofCode (q.slice 1 2)
  timeCodeValid := q.getLsbD 3
  wordClockValid := q.getLsbD 4
  video := .ofCode (q.slice 5 2)
  setRequest := q.getLsbD 8
  dropFrame := q.getLsbD 9
  rate := .ofCode (q.slice 10 2)
  quarterFrame := (q.slice 12 2).toNat
  newQuarterFrame := q.getLsbD 14
  offset := (q.splitSlice 16).toNat

end Signals

end TimecodeCard.Tco
