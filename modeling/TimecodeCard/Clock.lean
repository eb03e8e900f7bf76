/-!
# Sampling clock of the card

The nominal rate of the sampling clock is a base frequency times a speed: three base
frequencies and three speeds make the nine rates of `ClockRate`. Positions inside the time
code module are counted at single speed, so `Speed.factor` converts between the two counts.

`ClockRate.ofHz?` reads a rate from its frequency; `ofHz?_hz` says that it inverts
`ClockRate.hz`.
-/

namespace TimecodeCard

/-! ## Base frequency and speed -/

/-- Frequency of the sampling clock at single speed. -/
inductive BaseFrequency
  | hz32000
  | hz44100
  | hz48000
  deriving DecidableEq, Repr

instance : Inhabited BaseFrequency := ⟨.hz44100⟩

/-- The base frequency in hertz. -/
def BaseFrequency.hz : BaseFrequency → Nat
  | .hz32000 => 32000
  | .hz44100 => 44100
  | .hz48000 => 48000

/-- Multiplier of the sampling clock over its base frequency. -/
inductive Speed
  | single
  | double
  | quadruple
  deriving DecidableEq, Repr

instance : Inhabited Speed := ⟨.single⟩

/-- The number of frames in one frame at single speed. -/
def Speed.factor : Speed → Nat
  | .single => 1
  | .double => 2
  | .quadruple => 4

theorem Speed.factor_pos (s : Speed) : 0 < s.factor := by
  cases s <;> decide

/-! ## Nominal rate -/

/-- Nominal rate of the sampling clock. -/
structure ClockRate where
  base : BaseFrequency := default
  speed : Speed := default
  deriving DecidableEq, Repr, Inhabited

namespace ClockRate

/-- The nominal rate in hertz. -/
def hz (rate : ClockRate) : Nat :=
  rate.base.hz * rate.speed.factor

/-- The nine rates, in ascending order. -/
def all : List ClockRate :=
  [.single, .double, .quadruple].flatMap fun speed =>
    [.hz32000, .hz44100, .hz48000].map fun base => { base, speed }

/-- The rate of the frequency, if the clock has it. -/
def ofHz? (hz : Nat) : Option ClockRate :=
  all.find? fun rate => rate.hz == hz

theorem ofHz?_hz (rate : ClockRate) : ofHz? rate.hz = some rate := by
  obtain ⟨base, speed⟩ := rate
  cases base <;> cases speed <;> rfl

end ClockRate

end TimecodeCard
