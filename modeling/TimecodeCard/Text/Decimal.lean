/-!
# Reading decimal numbers

Numbers are written in ASCII digits, with any count of leading zeros and one optional sign.
`Decimal.readUnsigned` reads a number up to a limit and says what is wrong with any other
text; characters are taken from left to right, and at each one the digit is judged before the
size. `Decimal.readSigned?` reads an integer within two limits.

`Decimal.pair` writes a number below one hundred with two digits.
-/

namespace TimecodeCard.Decimal

/-- Why a text is no number. -/
inductive Problem
  | empty
  | invalidDigit
  | tooLarge
  deriving DecidableEq, Repr

/-- The words for the problem. -/
def Problem.message : Problem → String
  | .empty => "cannot parse integer from empty string"
  | .invalidDigit => "invalid digit found in string"
  | .tooLarge => "number too large to fit in target type"

/-- The value of an ASCII digit. -/
def digit? (c : Char) : Option Nat :=
  if '0' ≤ c ∧ c ≤ '9' then some (c.toNat - '0'.toNat) else none

/-- The number made of the digits read so far and of those which follow, up to the limit. -/
def readDigits (limit : Nat) (read : Nat) : List Char → Except Problem Nat
  | [] => .ok read
  | c :: rest =>
    match digit? c with
    | none => .error .invalidDigit
    | some d =>
      if limit < read * 10 + d then .error .tooLarge
      else readDigits limit (read * 10 + d) rest

/-- The number of the text, up to the limit. One plus sign may stand in front. -/
def readUnsigned (limit : Nat) : List Char → Except Problem Nat
  | [] => .error .empty
  | '+' :: rest => if rest.isEmpty then .error .invalidDigit else readDigits limit 0 rest
  | cs => readDigits limit 0 cs

/-- The integer of the text, from minus the first limit up to the second. -/
def readSigned? (negative positive : Nat) : List Char → Option Int
  | [] => none
  | '-' :: rest =>
    if rest.isEmpty then none
    else (readDigits negative 0 rest).toOption.map fun n => -(n : Int)
  | cs => (readUnsigned positive cs).toOption.map Int.ofNat

/-- The two digits of a number below one hundred. -/
def pair (n : Nat) : List Char :=
  [Nat.digitChar (n / 10), Nat.digitChar (n % 10)]

end TimecodeCard.Decimal
