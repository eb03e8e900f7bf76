import TimecodeCard.Word
import TimecodeCard.Register.Quadlet

/-!
# Banks of four quadlets

The time code module is read and written through banks of four quadlets. `Bank.get` and
`Bank.set` reach one of them by number, `Bank.ofList?` takes the first four of a list and
`Bank.toList` lists them.
-/

namespace TimecodeCard

/-- Four quadlets, numbered from zero. -/
structure Bank where
  q0 : Quadlet := 0
  q1 : Quadlet := 0
  q2 : Quadlet := 0
  q3 : Quadlet := 0
  deriving DecidableEq, Repr, Inhabited

namespace Bank

/-- The quadlet of the number; any number above three is taken for three. -/
def get (b : Bank) : Nat → Quadlet
  | 0 => b.q0
  | 1 => b.q1
  | 2 => b.q2
  | _ => b.q3

/-- The bank with the quadlet of the number replaced. -/
def set (b : Bank) (n : Nat) (q : Quadlet) : Bank :=
  match n with
  | 0 => { b with q0 := q }
  | 1 => { b with q1 := q }
  | 2 => { b with q2 := q }
  | _ => { b with q3 := q }

/-- The four quadlets in order. -/
def toList (b : Bank) : List Quadlet :=
  [b.q0, b.q1, b.q2, b.q3]

/-- The first four quadlets of the list. -/
def ofList? : List Quadlet → Except Fault Bank
  | q0 :: q1 :: q2 :: q3 :: _ => .ok { q0, q1, q2, q3 }
  | _ => .error .missingQuadlet

@[simp] theorem ofList?_toList (b : Bank) : ofList? b.toList = .ok b := rfl

end Bank

end TimecodeCard
