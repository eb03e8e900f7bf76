import TimecodeCard.Card.Model

/-!
# Rejected operations

An operation on the card may be refused. `Rejection` lists the causes. Each has a kind and a
message; `Complaint` is the pair of both, as clients see it, and `Complaint.text` puts it into
words. `ErrorKind.domain` names the part of a session which an error of the kind comes from.

What a refused operation comes to is a cause together with the state in which the operation stops
(`Refused`), for it works on that state and might have changed it by then.

A refused operation is also warned about, except where no time code module is there at all
(`Rejection.warns`).
-/

namespace TimecodeCard

/-! ## Kinds and complaints -/

/-- Kind of an error. -/
inductive ErrorKind
  | invalidArgument
  | busy
  | noDevice
  | failed
  deriving DecidableEq, Repr

namespace ErrorKind

/-- The name of the kind in error texts. -/
def label : ErrorKind → String
  | .invalidArgument => "Invalid argument"
  | .busy => "Resource busy"
  | .noDevice => "No such device"
  | .failed => "Operation failed"

/-- The part of a session which an error of the kind comes from. -/
def domain : ErrorKind → String
  | .invalidArgument => "Configuration error"
  | .busy => "Card operation error"
  | .noDevice => "Device detection error"
  | .failed => "Unknown domain error"

end ErrorKind

/-- An error as clients see it. -/
structure Complaint where
  kind : ErrorKind
  message : String
  deriving DecidableEq, Repr

namespace Complaint

/-- The text of the complaint. -/
def text (c : Complaint) : String :=
  c.kind.label ++ ": " ++ c.message

/-- The text of a complaint which ends a session. -/
def sessionText (c : Complaint) : String :=
  c.kind.domain ++ ": " ++ c.text

end Complaint

/-! ## Causes -/

/-- A list of entries from which a parameter of the time code module is chosen by index. -/
inductive Choice
  | syncSource
  | format
  | sampleRate
  | pull
  | conversion
  | outputSpeed
  deriving DecidableEq, Repr

namespace Choice

/-- The name of the list. -/
def label : Choice → String
  | .syncSource => "sync source"
  | .format => "LTC format"
  | .sampleRate => "sample rate"
  | .pull => "pull"
  | .conversion => "word clock conversion"
  | .outputSpeed => "word clock output speed"

/-- The number of entries. -/
def count : Choice → Nat
  | .syncSource => 3
  | .format => 6
  | .sampleRate => 3
  | .pull => 5
  | .conversion => 3
  | .outputSpeed => 3

end Choice

/-- Why an operation is refused. -/
inductive Rejection
  /-- The card has no time code module. -/
  | noModule
  /-- The length of the period is fixed while the card runs. -/
  | periodWhileRunning
  /-- The clock rate is fixed while the card runs. -/
  | rateWhileRunning
  /-- The model has no period of the length. -/
  | unsupportedPeriod (size : Nat) (model : CardModel)
  /-- The clock has no such rate. -/
  | unsupportedRate (hz : Nat)
  /-- The list has no entry at the index. -/
  | badIndex (choice : Choice) (index : Nat)
  deriving DecidableEq, Repr

namespace Rejection

/-- The kind of error. -/
def kind : Rejection → ErrorKind
  | .noModule => .noDevice
  | .periodWhileRunning | .rateWhileRunning => .busy
  | .unsupportedPeriod .. | .unsupportedRate _ | .badIndex .. => .invalidArgument

/-- The words for the cause. -/
def message : Rejection → String
  | .noModule => "TCO module is not detected"
  | .periodWhileRunning => "Period size is not changed while audio interrupts are running"
  | .rateWhileRunning => "Clock rate is not changed while audio interrupts are running"
  | .unsupportedPeriod size model =>
    "Period size " ++ toString size ++ " is not supported by " ++ model.name
  | .unsupportedRate hz => "Sampling rate " ++ toString hz ++ " is not supported"
  | .badIndex choice index =>
    "Invalid index " ++ toString index ++ " for " ++ choice.label ++ ", should be less than "
      ++ toString choice.count

/-- The rejection as clients see it. -/
def complaint (r : Rejection) : Complaint :=
  { kind := r.kind, message := r.message }

/-- Whether a warning goes with the rejection. -/
def warns : Rejection → Bool
  | .noModule | .unsupportedRate _ => false
  | .periodWhileRunning | .rateWhileRunning | .unsupportedPeriod .. | .badIndex .. => true

end Rejection

/-! ## Warnings -/

/-- A warning for the log. -/
inductive Warning
  /-- An operation is refused. -/
  | rejected (r : Rejection)
  /-- The offset of the time code output does not fit its 14 bits. -/
  | offsetOutOfRange (offset : Int)
  deriving DecidableEq, Repr

/-- The words of the warning. -/
def Warning.message : Warning → String
  | .rejected r => r.message
  | .offsetOutOfRange _ => "LTC output offset out of range 0..=16383"

/-- The warnings which go with the rejection. -/
def Rejection.warnings (r : Rejection) : List Warning :=
  if r.warns then [.rejected r] else []

/-! ## Refused operations -/

/-- A refused operation on a state. -/
structure Refused (σ : Type) where
  reason : Rejection
  /-- The state in which the operation stops. -/
  after : σ
  deriving DecidableEq, Repr

namespace Refused

variable {σ : Type}

instance : CoeOut (Refused σ) Rejection := ⟨Refused.reason⟩

/-- The warnings which go with the refusal. -/
def warnings (r : Refused σ) : List Warning :=
  r.reason.warnings

end Refused

end TimecodeCard
