/-!
# Frame rates and counting of time code

Time code counts frames at one of four rates. What the count looks like depends on two
things only, which `Counting` keeps: the nominal number of frames per second, and whether
numbers are dropped. At the nominal rate of 30, drop frame counting leaves out the first two
numbers of each minute except every tenth, so that the count keeps up with 29.97 frames per
second. At any other rate the flag has no effect (`Counting.Skips`).

`FrameRate.code` and `FrameRate.ofCode` are the two-bit code of the rate in the registers of
the time code module, inverse to each other.
-/

namespace TimecodeCard

/-! ## Frame rate -/

/-- Frame rate of linear time code. -/
inductive FrameRate
  | fps24
  | fps25
  /-- 29.97 frames per second: 30 frames in 1.001 seconds. -/
  | fps2997
  | fps30
  deriving DecidableEq, Repr

instance : Inhabited FrameRate := ⟨.fps24⟩

namespace FrameRate

/-- The nominal number of frames per second. -/
def fps : FrameRate → Nat
  | .fps24 => 24
  | .fps25 => 25
  | .fps2997 => 30
  | .fps30 => 30

/-- The real frame rate over the nominal one, per mille. -/
def scale : FrameRate → Nat
  | .fps2997 => 999
  | .fps24 | .fps25 | .fps30 => 1000

/-- The code of the rate in registers. -/
def code : FrameRate → BitVec 2
  | .fps24 => 0
  | .fps25 => 1
  | .fps2997 => 2
  | .fps30 => 3

/-- The rate of the code in registers. -/
def ofCode (c : BitVec 2) : FrameRate :=
  if c = 0 then .fps24 else if c = 1 then .fps25 else if c = 2 then .fps2997 else .fps30

/-- The rate of a code of any size, if there is one. -/
def ofCode? (n : Nat) : Option FrameRate :=
  if n < 4 then some (ofCode (BitVec.ofNat 2 n)) else none

@[simp] theorem ofCode_code (rate : FrameRate) : ofCode rate.code = rate := by
  cases rate <;> rfl

@[simp] theorem code_ofCode (c : BitVec 2) : (ofCode c).code = c := by
  revert c
  decide

/-- The number of samples in one time code frame, at the sample rate in hertz. -/
def frameSize (rate : FrameRate) (sampleRate : Nat) : Nat :=
  sampleRate * 1000 / (rate.fps * rate.scale)

end FrameRate

/-! ## Counting -/

/-- How the frames of a second are numbered. -/
structure Counting where
  /-- The nominal number of frames per second. -/
  fps : Nat
  /-- Whether drop frame counting is asked for. -/
  dropFrame : Bool
  deriving DecidableEq, Repr

/-- The counting of the frame rate, with or without dropped numbers. -/
def FrameRate.counting (rate : FrameRate) (dropFrame : Bool) : Counting :=
  { fps := rate.fps, dropFrame }

namespace Counting

/-- The number of frame numbers in a second. A rate of zero counts like one. -/
def modulus (c : Counting) : Nat :=
  max c.fps 1

theorem modulus_pos (c : Counting) : 0 < c.modulus := by
  unfold modulus
  omega

/-- Whether any number is dropped at all. -/
def Skips (c : Counting) : Prop :=
  c.dropFrame = true ∧ c.fps = 30

instance (c : Counting) : Decidable c.Skips :=
  inferInstanceAs (Decidable (_ ∧ _))

/-- The number of frames in ten minutes of drop frame counting: one full minute, and nine
which lack two numbers each. -/
def tenMinutes : Nat := 1800 + 9 * 1798

/-- The number of frames in a day. -/
def framesPerDay (c : Counting) : Nat :=
  if c.Skips then tenMinutes * 6 * 24 else c.fps * 24 * 60 * 60

end Counting

/-! ## Format -/

/-- Format of linear time code: a frame rate, and for the nominal rate of 30 the choice of
drop frame counting. -/
inductive Format
  | fps24
  | fps25
  | fps2997
  | fps2997Drop
  | fps30
  | fps30Drop
  deriving DecidableEq, Repr

instance : Inhabited Format := ⟨.fps24⟩

namespace Format

/-- Every format, in the order of the configuration index. -/
def all : List Format :=
  [.fps24, .fps25, .fps2997, .fps2997Drop, .fps30, .fps30Drop]

/-- The frame rate. -/
def rate : Format → FrameRate
  | .fps24 => .fps24
  | .fps25 => .fps25
  | .fps2997 | .fps2997Drop => .fps2997
  | .fps30 | .fps30Drop => .fps30

/-- Whether the format counts with dropped numbers. -/
def dropFrame : Format → Bool
  | .fps2997Drop | .fps30Drop => true
  | .fps24 | .fps25 | .fps2997 | .fps30 => false

/-- The format of the frame rate; drop frame counting is ignored at 24 and 25 frames. -/
def ofRate : FrameRate → Bool → Format
  | .fps24, _ => .fps24
  | .fps25, _ => .fps25
  | .fps2997, dropFrame => if dropFrame then .fps2997Drop else .fps2997
  | .fps30, dropFrame => if dropFrame then .fps30Drop else .fps30

@[simp] theorem ofRate_rate (f : Format) : ofRate f.rate f.dropFrame = f := by
  cases f <;> rfl

/-- How the format numbers its frames. -/
def counting (f : Format) : Counting :=
  f.rate.counting f.dropFrame

end Format

end TimecodeCard
