import TimecodeCard.TimeCode.Step

/-!
# Numbering the frames of a day

Every frame of a day has a number, counted from midnight: `TimeCode.frameNumber` finds it, and
`TimeCode.ofFrameNumber` gives the time code of a number, any integer being taken modulo the
day. Drop frame counting is numbered in blocks of ten minutes, each made of one minute of 1800
frames and nine of 1798. Adding a number of frames is then a matter of adding numbers
(`TimeCode.addFrames`), with no loop over the frames between.
-/

namespace TimecodeCard.TimeCode

/-- The number of frames since midnight. A dropped number counts like the first one shown
after it, and a frame beyond its second like the last one of the second. -/
def frameNumber (c : Counting) (t : TimeCode) : Nat :=
  let f := t.fields
  let minutes := f.hours * 60 + f.minutes
  let frames := min f.frames (c.modulus - 1)
  if c.Skips then
    let tens := minutes / 10
    let units := minutes % 10
    if units = 0 then
      tens * Counting.tenMinutes + (f.seconds * 30 + frames)
    else
      let shown := if f.seconds = 0 then max frames 2 else frames
      tens * Counting.tenMinutes + (1800 + (units - 1) * 1798 + f.seconds * 30 + shown - 2)
  else
    (minutes * 60 + f.seconds) * c.modulus + frames

/-- The fields at the number of frames since midnight, for a number within a day. -/
def fieldsOfFrameNumber (c : Counting) (n : Nat) : Fields :=
  if c.Skips then
    let tens := n / Counting.tenMinutes
    let within := n % Counting.tenMinutes
    if within < 1800 then
      { hours := tens * 10 / 60
        minutes := tens * 10 % 60
        seconds := within / 30
        frames := within % 30 }
    else
      let units := 1 + (within - 1800) / 1798
      let position := (within - 1800) % 1798 + 2
      { hours := (tens * 10 + units) / 60
        minutes := (tens * 10 + units) % 60
        seconds := position / 30
        frames := position % 30 }
  else
    { hours := n / c.modulus / 60 / 60
      minutes := n / c.modulus / 60 % 60
      seconds := n / c.modulus % 60
      frames := n % c.modulus }

/-- The time code at the number of frames since midnight, modulo a day. -/
def ofFrameNumber (c : Counting) (n : Int) : TimeCode :=
  let day := ({ c with fps := c.modulus } : Counting).framesPerDay
  ofFields (fieldsOfFrameNumber c (n % day).toNat)

/-- The time code so many frames later, or earlier if the number is negative. -/
def addFrames (c : Counting) (n : Int) (t : TimeCode) : TimeCode :=
  ofFrameNumber c (t.frameNumber c + n)

end TimecodeCard.TimeCode
