import TimecodeCard.Word

/-!
# Models of the card

A card is of one of six models, named for their interfaces. The model decides how long an
audio period is for a latency code (`CardModel.periodSize`), which lengths exist at all
(`CardModel.latencyCode?`), and how large the hardware buffer is (`CardModel.bufferSize`).
`periodSize_of_latencyCode?` says that a latency code found for a length gives that length.
-/

namespace TimecodeCard

/-- Model of the card. -/
inductive CardModel
  | madi
  | madiFace
  | aes
  | rayDat
  | aio
  | aioPro
  deriving DecidableEq, Repr

instance : Inhabited CardModel := ⟨.aio⟩

/-- The number of frames after which the hardware pointer wraps around. -/
def pointerSpan : Nat := 16384

/-- The largest latency code. -/
def maxLatency : Nat := 7

namespace CardModel

/-- Every model. -/
def all : List CardModel :=
  [.madi, .madiFace, .aes, .rayDat, .aio, .aioPro]

/-- The name by which messages call the model. -/
def name : CardModel → String
  | .madi => "Madi"
  | .madiFace => "MadiFace"
  | .aes => "Aes"
  | .rayDat => "RayDat"
  | .aio => "Aio"
  | .aioPro => "AioPro"

/-- Whether the hardware buffer has one fixed size. Such a model also reports its time code
module in status register 2 instead of 0. -/
def hasFixedBuffer : CardModel → Bool
  | .rayDat | .aio | .aioPro => true
  | .madi | .madiFace | .aes => false

/-! ## Periods and buffers -/

/-- The number of frames per period for the latency code. The largest code stands for the
shortest period on models with a fixed buffer, and for the longest one on the others. -/
def periodSize (model : CardModel) (latency : Nat) : Nat :=
  if maxLatency ≤ latency then
    if model.hasFixedBuffer then 32 else 8192
  else
    64 <<< latency

/-- The latency code for the number of frames per period, if the model has it. -/
def latencyCode? (model : CardModel) (size : Nat) : Option Nat :=
  (List.range (maxLatency + 1)).find? fun latency => model.periodSize latency == size

/-- The number of frames in the hardware buffer. -/
def bufferSize (model : CardModel) (period : Nat) : Nat :=
  if model.hasFixedBuffer then pointerSpan else 2 * period

/-- The number of frames in the hardware buffer for an arbitrary length of period, a fault
if 32 bits do not hold it. -/
def bufferSize32 (model : CardModel) (period : Nat) : Except Fault Nat :=
  Word.fit32 (model.bufferSize period)

theorem periodSize_of_latencyCode? {model : CardModel} {size latency : Nat}
    (h : model.latencyCode? size = some latency) : model.periodSize latency = size := by
  simpa using List.find?_some h

end CardModel

end TimecodeCard
