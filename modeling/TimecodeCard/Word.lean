/-!
# Words of a fixed width

Positions, instants and counts of the card are held in words of 32 or 64 bits. This file
says what happens at the edge of a word: a result that does not fit is a `Fault`, never a
wrapped number. Values are plain `Nat` and `Int`; the checks `Word.fit32`, `Word.fit64`,
`Word.fitSigned64` and `Word.minus` stand at each operation that can leave its width. Where a
number is passed on in another width, it is read again without a check (`Word.asSigned64`,
`Word.asSigned32`).

The `_eq_ok_iff` lemmas characterise the successful outcomes, and are all that later files
need to know of the checks. `exists_of_bind_eq_ok` and `exists_of_map_eq_ok` take a computation
which succeeded apart.
-/

namespace TimecodeCard

/-- Why a computation stops without a result. -/
inductive Fault
  /-- A number left the width of its word. -/
  | overflow
  /-- Fewer quadlets were given than the parameters need. -/
  | missingQuadlet
  deriving DecidableEq, Repr

namespace Word

/-! ## Checks -/

/-- The number itself, if 32 bits hold it. -/
def fit32 (n : Nat) : Except Fault Nat :=
  if n < 0x100000000 then .ok n else .error .overflow

/-- The number itself, if 64 bits hold it. -/
def fit64 (n : Nat) : Except Fault Nat :=
  if n < 0x10000000000000000 then .ok n else .error .overflow

/-- The integer itself, if 64 bits in two's complement hold it. -/
def fitSigned64 (x : Int) : Except Fault Int :=
  if -0x8000000000000000 ≤ x ∧ x < 0x8000000000000000 then .ok x else .error .overflow

/-- The difference of two unsigned words, a fault if it is negative. -/
def minus (a b : Nat) : Except Fault Nat :=
  if b ≤ a then .ok (a - b) else .error .overflow

/-- The signed reading of a 64-bit unsigned word. -/
def asSigned64 (n : Nat) : Int :=
  (n : Int).bmod 0x10000000000000000

/-- The signed reading of the lower 32 bits. Unlike the checks, this goes on with another number
if 32 bits do not hold the one given. -/
def asSigned32 (x : Int) : Int :=
  x.bmod 0x100000000

/-! ## When a check succeeds -/

theorem fit32_eq_ok_iff {n m : Nat} : fit32 n = .ok m ↔ n < 0x100000000 ∧ m = n := by
  grind [fit32]

theorem fit64_eq_ok_iff {n m : Nat} : fit64 n = .ok m ↔ n < 0x10000000000000000 ∧ m = n := by
  grind [fit64]

theorem fitSigned64_eq_ok_iff {x y : Int} :
    fitSigned64 x = .ok y ↔ (-0x8000000000000000 ≤ x ∧ x < 0x8000000000000000) ∧ y = x := by
  grind [fitSigned64]

theorem minus_eq_ok_iff {a b c : Nat} : minus a b = .ok c ↔ b ≤ a ∧ c = a - b := by
  grind [minus]

end Word

/-! ## Computations which succeed -/

section Except

variable {ε α β : Type} {b : β}

theorem exists_of_bind_eq_ok {x : Except ε α} {f : α → Except ε β} (h : (x >>= f) = .ok b) :
    ∃ a, x = .ok a ∧ f a = .ok b := by
  cases x with
  | error e => exact nomatch h
  | ok a => exact ⟨a, rfl, h⟩

theorem exists_of_map_eq_ok {x : Except ε α} {f : α → β} (h : x.map f = .ok b) :
    ∃ a, x = .ok a ∧ f a = b := by
  cases x with
  | error e => exact nomatch h
  | ok a => exact ⟨a, rfl, Except.ok.inj h⟩

/-- A continuation which always succeeds leaves it to the computation before. -/
theorem exists_bind_eq_ok_iff {x : Except ε α} {f : α → Except ε β} (hf : ∀ a, ∃ b, f a = .ok b) :
    (∃ b, (x >>= f) = .ok b) ↔ ∃ a, x = .ok a := by
  constructor
  · rintro ⟨b, h⟩
    obtain ⟨a, ha, -⟩ := exists_of_bind_eq_ok h
    exact ⟨a, ha⟩
  · rintro ⟨a, rfl⟩
    exact hf a

end Except

end TimecodeCard
