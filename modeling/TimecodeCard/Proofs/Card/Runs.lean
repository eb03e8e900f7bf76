import Mathlib.Tactic
import TimecodeCard.Proofs.Card.Effects
import TimecodeCard.Proofs.Tco.Held

/-!
# Runs of operations

`Card.performs?` carries out operations one after another, each at a real time of its own. Whatever
every effect of an operation keeps, a run keeps (`Card.keeps_of_performs?`), so that what a run does
not touch is said of one operation at a time.

What a run has written to a `Recorded` device stands before what was written until then.
`Recorded.WritesOnly` says that all of it meets a condition. A register whose quadlet meets it at
the start holds such a quadlet at the end (`Recorded.WritesOnly.exists_lastWritten?`).
-/

namespace TimecodeCard

variable {δ : Type}

/-! ## Writes of a run -/

namespace Recorded

/-- Whether all that was written from the first to the second device, each quadlet along with its
offset, meets the condition. -/
def WritesOnly (P : Nat × Quadlet → Prop) (r r' : Recorded δ) : Prop :=
  ∃ log, r'.writeLog = log ++ r.writeLog ∧ ∀ w ∈ log, P w

namespace WritesOnly

variable {P : Nat × Quadlet → Prop} {r r' r'' : Recorded δ}

lemma of_eq (h : r'.writeLog = r.writeLog) : WritesOnly P r r' :=
  ⟨[], h, fun _ hw => nomatch hw⟩

lemma trans (h : WritesOnly P r r') (h' : WritesOnly P r' r'') : WritesOnly P r r'' := by
  obtain ⟨log, heq, hlog⟩ := h
  obtain ⟨log', heq', hlog'⟩ := h'
  refine ⟨log' ++ log, ?_, ?_⟩
  · rw [heq', heq, List.append_assoc]
  · intro w hw
    rcases List.mem_append.mp hw with hw | hw
    · exact hlog' w hw
    · exact hlog w hw

lemma write [Device δ] (h : WritesOnly P r r') {offset : Nat} {q : Quadlet} (hq : P (offset, q)) :
    WritesOnly P r (Device.write r' offset q) := by
  refine h.trans ⟨[(offset, q)], rfl, ?_⟩
  intro w hw
  rwa [List.mem_singleton.mp hw]

lemma exists_lastWritten? (h : WritesOnly P r r') {offset : Nat}
    (hr : ∃ q, r.lastWritten? offset = some q ∧ P (offset, q)) :
    ∃ q, r'.lastWritten? offset = some q ∧ P (offset, q) := by
  obtain ⟨log, heq, hlog⟩ := h
  obtain ⟨q, hq, hP⟩ := hr
  unfold lastWritten? at hq ⊢
  rw [heq, List.lookup_append]
  cases hfound : log.lookup offset with
  | none => exact ⟨q, hq, hP⟩
  | some q' =>
      obtain ⟨before, after, rfl, -⟩ := List.lookup_eq_some_iff.mp hfound
      exact ⟨q', rfl, hlog _ (List.mem_append_right before List.mem_cons_self)⟩

end WritesOnly

end Recorded

/-! ## Runs -/

namespace Card

variable [Device δ]

/-- The card after the operations, one after another. -/
def performs? (c : Card δ) : List (Nat × Operation) → Except Fault (Card δ)
  | [] => .ok c
  | (now, op) :: events => do
    let (c, _) ← c.perform now op
    c.performs? events

variable {c c' : Card δ} {events : List (Nat × Operation)}

lemma exists_of_performs?_cons {now : Nat} {op : Operation}
    (h : c.performs? ((now, op) :: events) = .ok c') :
    ∃ d report, c.perform now op = .ok (d, report) ∧ d.performs? events = .ok c' := by
  obtain ⟨⟨d, report⟩, hperform, hrest⟩ := exists_of_bind_eq_ok h
  exact ⟨d, report, hperform, hrest⟩

/-- **Run.** What the effects of some operations keep, a run of these operations keeps. -/
theorem keeps_of_performs? {I : Card δ → Prop}
    (hstep : ∀ {event}, event ∈ events → ∀ {c c' : Card δ} {report},
      Effect c event.1 event.2 c' report → I c → I c')
    (h : c.performs? events = .ok c') (hc : I c) : I c' := by
  induction events generalizing c with
  | nil =>
      obtain rfl := Except.ok.inj h
      exact hc
  | cons event events ih =>
      obtain ⟨d, report, hperform, hrest⟩ := exists_of_performs?_cons h
      have hd : I d := hstep List.mem_cons_self (perform_effect hperform) hc
      exact ih (fun hother => hstep (List.mem_cons_of_mem event hother)) hrest hd

/-- A run changes neither the model of the card nor whether the card has a module. -/
lemma model_performs? (h : c.performs? events = .ok c') :
    c'.model = c.model ∧ c'.hasModule = c.hasModule := by
  refine keeps_of_performs? (I := fun d => d.model = c.model ∧ d.hasModule = c.hasModule) ?_ h
    ⟨rfl, rfl⟩
  intro event _ d d' report heffect hd
  exact ⟨heffect.model_eq.trans hd.1, heffect.hasModule_eq.trans hd.2⟩

end Card

end TimecodeCard
