import TimecodeCard.TimeCode.Basic
import TimecodeCard.Text.Decimal

/-!
# Time code as text

A time code is written `hh:mm:ss:ff` (`TimeCode.text`). Reading (`TimeCode.parse`) takes four
numbers between colons, each with any count of leading zeros and an optional plus sign, and
accepts those below 24 hours, 60 minutes, 60 seconds and 30 frames. The first part which is no
number below 256 decides the complaint, before the count of parts is looked at.
-/

namespace TimecodeCard

/-- The parts of the text between the separators, at least one. -/
def splitParts (separator : Char) : List Char → List (List Char)
  | [] => [[]]
  | c :: rest =>
    if c = separator then [] :: splitParts separator rest
    else
      match splitParts separator rest with
      | [] => [[c]]
      | part :: parts => (c :: part) :: parts

namespace TimeCode

/-- Why a text is no time code. -/
inductive ParseProblem
  /-- A part is no number which a byte holds. -/
  | badNumber (text : String) (why : Decimal.Problem)
  /-- The numbers are not four, or not a time of day. -/
  | badForm (text : String)
  deriving DecidableEq, Repr

/-- The words for the problem. -/
def ParseProblem.message : ParseProblem → String
  | .badNumber text why => "Invalid time code '" ++ text ++ "': " ++ why.message
  | .badForm text => "Invalid time code '" ++ text ++ "', expected hh:mm:ss:ff"

/-- The time code of the text. -/
def parse (text : String) : Except ParseProblem TimeCode :=
  match (splitParts ':' text.toList).mapM (Decimal.readUnsigned 255) with
  | .error why => .error (.badNumber text why)
  | .ok [hours, minutes, seconds, frames] =>
    if hours < 24 ∧ minutes < 60 ∧ seconds < 60 ∧ frames < 30 then
      .ok (ofFields { hours, minutes, seconds, frames })
    else .error (.badForm text)
  | .ok _ => .error (.badForm text)

/-- The text of the time code. -/
def text (t : TimeCode) : String :=
  String.ofList (Decimal.pair t.fields.hours ++ ':' :: Decimal.pair t.fields.minutes
    ++ ':' :: Decimal.pair t.fields.seconds ++ ':' :: Decimal.pair t.fields.frames)

end TimeCode

end TimecodeCard
