import TimecodeCard.Rejection
import TimecodeCard.Tco.Config

/-!
# Parameters of the time code module

Clients set one parameter at a time (`Param`): a switch, or an entry of a list by its index. An
index outside the list is rejected and anything else of the configuration stays as it is
(`Param.apply`). The list of sample rates ends with the rate of the card, which is why the base
frequency of the card takes part.
-/

namespace TimecodeCard.Tco

/-- One parameter with its new value. -/
inductive Param
  /-- The entry at the index of the list. -/
  | choose (choice : Choice) (index : Nat)
  | termination (on : Bool)
  | run (on : Bool)
  | flywheel (on : Bool)
  deriving DecidableEq, Repr

namespace Param

/-! ## Lists of entries -/

/-- The sources of synchronization. -/
def syncSources : List SyncSource :=
  [.wordClock, .video, .timeCode]

/-- The sample rates, of which the last is the one of the card. -/
def sampleRates (card : BaseFrequency) : List SampleRate :=
  [.fixed .hz44100, .fixed .hz48000, .ofCard (.ofCard card)]

/-- The pulls of the sampling clock. -/
def pulls : List Pull :=
  [.none, .up, .down, .upFour, .downFour]

/-- The conversions of word clock. -/
def conversions : List WordClockConversion :=
  [.identical, .from441To480, .from480To441]

/-- The speeds of word clock output. -/
def outputSpeeds : List WordClockSpeed :=
  [.single, .double, .quadruple]

/-! ## Setting -/

/-- The configuration with the chosen entry in its field, if the list has the entry. -/
def choose? (c : Config) (card : BaseFrequency) (index : Nat) : Choice → Option Config
  | .syncSource => syncSources[index]?.map fun syncSource => { c with syncSource }
  | .format =>
    Format.all[index]?.map fun f => { c with rate := f.rate, dropFrame := f.dropFrame }
  | .sampleRate => (sampleRates card)[index]?.map fun sampleRate => { c with sampleRate }
  | .pull => pulls[index]?.map fun pull => { c with pull }
  | .conversion => conversions[index]?.map fun conversion => { c with conversion }
  | .outputSpeed => outputSpeeds[index]?.map fun outputSpeed => { c with outputSpeed }

/-- The configuration with the parameter set. -/
def apply (p : Param) (c : Config) (card : BaseFrequency) : Except Rejection Config :=
  match p with
  | .choose choice index =>
    match choose? c card index choice with
    | some c => .ok c
    | none => .error (.badIndex choice index)
  | .termination on => .ok { c with termination := on }
  | .run on => .ok { c with run := on }
  | .flywheel on => .ok { c with flywheel := on }

theorem isSome_choose?_iff {c : Config} {card : BaseFrequency} {index : Nat} {choice : Choice} :
    (choose? c card index choice).isSome ↔ index < choice.count := by
  cases choice <;> simp [choose?, Choice.count, syncSources, Format.all, sampleRates, pulls,
    conversions, outputSpeeds]

end Param

end TimecodeCard.Tco
