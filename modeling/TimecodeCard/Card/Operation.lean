import TimecodeCard.Card.Basic

/-!
# Operations on the card

Everything that may happen to a card, by hardware or by a client, is an `Operation`.
`Card.perform` carries one out at a given real time and reports what the outside sees of it: an
answer, the notices in their order of delivery, and warnings (`Report`). `Card.Reachable` holds
of the cards which operations lead to from one that was just attached, where a restore takes
what the same card saved. `Card.ReachableBy` has a condition on each operation in its place, and a
restore may take anything.
-/

namespace TimecodeCard

/-- An operation on the card. -/
inductive Operation
  | interrupt
  | midi (bytes : List UInt8)
  | poll
  | start
  | stop
  | terminate
  | setPeriodSize (size : Nat)
  | setRate (rate : ClockRate)
  | setParam (p : Tco.Param)
  | request (r : Ltc.Request)
  | requestWide (code : BitVec 64) (target : Int)
  | restore (s : SavedCard)
  deriving DecidableEq, Repr

/-- Whether all that the operation restores, if anything, is in the list. -/
def Operation.RestoresFrom (saves : List SavedCard) : Operation → Prop
  | .restore s => s ∈ saves
  | _ => True

/-- The answer of an operation. -/
inductive Answer
  /-- The operation is done and has nothing to say. -/
  | done
  /-- The operation is done: whether it handled or changed something. -/
  | flag (b : Bool)
  | rejected (r : Rejection)
  deriving DecidableEq, Repr

/-- What the outside sees of an operation. -/
structure Report where
  answer : Answer := .done
  /-- The notices delivered, in order. -/
  notices : List Notice := []
  warnings : List Warning := []
  deriving DecidableEq, Repr, Inhabited

namespace Card

variable {δ : Type}

/-- The card which an operation that may be refused leaves, and the report of it. -/
def settle : Except (Refused (Card δ)) (Answer × Card δ) → Card δ × Report
  | .ok (answer, c) => (c, { answer })
  | .error r => (r.after, { answer := .rejected r, warnings := r.warnings })

variable [Device δ]

/-- The card after the operation at the given real time, and the report of it. -/
def perform (c : Card δ) (now : Nat) : Operation → Except Fault (Card δ × Report)
  | .interrupt => do
    let i ← c.interrupt now
    return (i.card,
      { answer := .flag i.handled, notices := i.notices.toList, warnings := i.warnings })
  | .midi bytes => do
    let (boundary, c) ← c.midi bytes now
    return (c, { answer := .flag boundary })
  | .poll =>
    let (notices, c) := c.poll
    .ok (c, { notices := notices.toList })
  | .start => .ok (c.start, {})
  | .stop => .ok (c.stop, {})
  | .terminate => .ok (c.terminate, {})
  | .setPeriodSize size => .ok (settle ((c.setPeriodSize size).map ((.done, ·))))
  | .setRate rate => .ok (settle ((c.setRate rate).map fun (b, c) => (.flag b, c)))
  | .setParam p => .ok (settle ((c.setParam p).map fun (b, c) => (.flag b, c)))
  | .request r => .ok (settle ((c.request r).map ((.done, ·))))
  | .requestWide code target => .ok (settle ((c.requestWide code target).map ((.done, ·))))
  | .restore s => .ok (c.restore s, {})

/-- The cards which operations lead to from a card of the model that was just attached,
together with what was saved on the way. A restore takes something saved. -/
inductive Reachable (model : CardModel) : List SavedCard → Card δ → Prop
  | attach (d : δ) : Reachable model [] (Card.attach model d)
  | save {saves : List SavedCard} {c : Card δ} :
    Reachable model saves c → Reachable model (c.save :: saves) c
  | perform {saves : List SavedCard} {c c' : Card δ} {now : Nat} {op : Operation}
      {report : Report} :
    Reachable model saves c → op.RestoresFrom saves → c.perform now op = .ok (c', report) →
      Reachable model saves c'

/-- The cards which operations lead to from a card of the model that was just attached, where every
operation on the way met a condition on the card before it and the real time. -/
inductive ReachableBy (Meets : Card δ → Nat → Operation → Prop) (model : CardModel) :
    Card δ → Prop
  | attach (d : δ) : ReachableBy Meets model (Card.attach model d)
  | perform {c c' : Card δ} {now : Nat} {op : Operation} {report : Report} :
    ReachableBy Meets model c → Meets c now op → c.perform now op = .ok (c', report) →
      ReachableBy Meets model c'

end Card

end TimecodeCard
