import Mathlib.Tactic
import TimecodeCard.Proofs.Ltc.Launch

/-!
# Requests are consumed once, the latest wins

The time code output remembers one request and one flag. What it writes can be told without
them, from the history of requests, interrupts and ends alone: an interrupt writes the last
request since the interrupt or end before it, unless that one cancels, and withdraws what the
interrupt before it wrote, unless an end has done so (`Event.due`).

The main result is `run?_writes`: a run writes what the history says, event by event, and leaves
the request and the flag which the history says. It also states that the requests written are
among those made, each at most once and in order. `Remembers` is the invariant, `Remembers.step`
the step and `Remembers.run` the run.
-/

namespace TimecodeCard.Ltc.Output

open Tco.Access (writeOffset withoutRequest withRun)

/-! ## Events and their history -/

/-- What happens to the time code output. -/
inductive Event
  | request (r : Request)
  | period (m : Moment)
  | terminate

section Run

variable {δ : Type} [Device δ]

/-- The output and its target after the event. -/
def after? (x : Output × Target δ) : Event → Except Fault (Output × Target δ)
  | .request r => .ok (x.1.request r, x.2)
  | .period m => (x.1.period x.2 m).map fun p => (p.output, p.target)
  | .terminate => .ok (x.1.terminate x.2)

/-- The output and its target after the events. -/
def run? (x : Output × Target δ) (events : List Event) : Except Fault (Output × Target δ) :=
  events.foldlM after? x

end Run

/-- The requests since the latest interrupt or end. Here and below, the history has its newest
event first. -/
def requestsSince : List Event → List Request
  | .request r :: history => r :: requestsSince history
  | _ => []

/-- The history up to the latest interrupt or end. -/
def upToLast : List Event → List Event
  | .request _ :: history => upToLast history
  | history => history

/-- The request which an interrupt after the history writes: the newest one, unless it cancels. -/
def waiting? (history : List Event) : Option Request :=
  (requestsSince history).head?.filter fun r => ¬ r.timeCode.IsAbsent

/-- Whether the latest interrupt wrote a request, and no end has come since. -/
def stands (history : List Event) : Bool :=
  match upToLast history with
  | .period _ :: before => (waiting? before).isSome
  | _ => false

/-! ## What is due -/

/-- The writes of an interrupt, of which one may have to withdraw what stands and the others
start the time code that waits. -/
def duePeriod (cache : Bank) (stands : Bool) (waiting : Option Request) (m : Moment) :
    Except Fault (List (Nat × Quadlet)) :=
  let withdrawn := if stands then [withdrawal cache] else []
  match waiting with
  | none => .ok withdrawn
  | some r => (schedule? r m).map fun s => withdrawn ++ launch cache s

/-- The writes of an event after the history, on a control bank that was cached at first. -/
def Event.due (cache : Bank) (history : List Event) :
    Event → Except Fault (List (Nat × Quadlet))
  | .request _ => .ok []
  | .period m => duePeriod cache (stands history) (waiting? history) m
  | .terminate => .ok [writeOf 2 (withRun false cache.q2), withdrawal cache]

/-- The writes of the events, each after those before it. -/
def due (cache : Bank) (history : List Event) : List Event → Except Fault (List (Nat × Quadlet))
  | [] => .ok []
  | e :: events => do
    let writes ← e.due cache history
    let rest ← due cache (e :: history) events
    return writes ++ rest

/-- The requests which the events write, each after those before it. -/
def taken (history : List Event) : List Event → List Request
  | [] => []
  | .period m :: events => (waiting? history).toList ++ taken (.period m :: history) events
  | e :: events => taken (e :: history) events

/-- The requests which the events make. -/
def made : List Event → List Request
  | [] => []
  | .request r :: events => r :: made events
  | _ :: events => made events

variable {δ : Type} [Device δ] {cache : Bank} {history events : List Event} {e : Event}

/-! ## What the history says after each event -/

@[simp] lemma stands_period (m : Moment) :
    stands (.period m :: history) = (waiting? history).isSome := rfl

lemma waiting?_request (r : Request) :
    waiting? (.request r :: history) = if r.timeCode.IsAbsent then none else some r := by
  by_cases h : r.timeCode.IsAbsent <;> simp [waiting?, requestsSince, h]

omit [Device δ] in
lemma withRun_withRun (run run' : Bool) (q2 : Quadlet) :
    withRun run (withRun run' q2) = withRun run q2 := by
  refine BitVec.eq_of_getLsbD_eq fun i hi => ?_
  rw [withRun, withRun, withRun, Quadlet.getLsbD_withBit hi, Quadlet.getLsbD_withBit hi,
    Quadlet.getLsbD_withBit hi]
  by_cases h : i = 16 <;> simp [h]

/-! ## The output remembers its history -/

/-- Whether the output and its target are what the history leaves of them. -/
structure Remembers (cache : Bank) (history : List Event) (x : Output × Target δ) : Prop where
  pending_eq : x.1.pending = waiting? history
  armed_eq : x.1.armed = stands history
  q1_eq : x.2.cache.q1 = cache.q1
  withRun_eq : ∀ run, withRun run x.2.cache.q2 = withRun run cache.q2

namespace Remembers

variable {x y : Output × Target (Recorded δ)}

/-- Withdrawing, if anything stands, writes what is due and leaves the cache alone. -/
lemma disarmed (h : Remembers cache history x) :
    ∃ t : Target (Recorded δ), (if x.1.armed then disarm x.2 else x.2) = t ∧ t.cache = x.2.cache
      ∧ t.device.writes
        = x.2.device.writes ++ (if stands history then [withdrawal cache] else []) := by
  refine ⟨_, rfl, ?_, ?_⟩
  · split <;> rfl
  · rw [h.armed_eq]
    split
    · rw [writes_disarm, withdrawal, h.q1_eq, withdrawal]
    · rw [List.append_nil]

/-- **Interrupt.** Either the schedule of what waits is a fault, or the writes are those due. -/
lemma period (h : Remembers cache history x) (m : Moment) :
    (∃ f, after? x (.period m) = .error f ∧ (Event.period m).due cache history = .error f)
      ∨ ∃ y writes, after? x (.period m) = .ok y
        ∧ (Event.period m).due cache history = .ok writes
        ∧ y.2.device.writes = x.2.device.writes ++ writes
        ∧ Remembers cache (.period m :: history) y := by
  obtain ⟨t, ht, hcache, hwrites⟩ := h.disarmed
  simp only [after?, Output.period, ht, h.pending_eq, Event.due, duePeriod]
  cases hwaiting : waiting? history with
  | none =>
      refine .inr ⟨_, _, rfl, rfl, hwrites, rfl, ?_, ?_, ?_⟩
      · rw [stands_period, hwaiting]
        rfl
      · exact (congrArg Bank.q1 hcache).trans h.q1_eq
      · intro run
        rw [← h.withRun_eq, ← hcache]
  | some r =>
      cases hschedule : schedule? r m with
      | error f => exact .inl ⟨f, by simp only [hschedule]; rfl, by simp only [hschedule]; rfl⟩
      | ok s =>
          refine .inr ⟨_, _, by simp only [hschedule]; rfl, by simp only [hschedule]; rfl, ?_,
            rfl, ?_, ?_, ?_⟩
          · -- Of the cached quadlets only the run bit may have changed, and a start sets it.
            have hlaunch : launch t.cache s = launch cache s := by
              rw [launch, launch, hcache, h.q1_eq, h.withRun_eq]
            rw [writes_arm, hwrites, hlaunch, List.append_assoc]
          · rw [stands_period, hwaiting]
            rfl
          · exact (congrArg Bank.q1 hcache).trans h.q1_eq
          · intro run
            rw [← h.withRun_eq, ← hcache]
            exact withRun_withRun run true t.cache.q2

/-- **Step.** An event writes what is due after the history, and becomes part of it. -/
lemma step (h : Remembers cache history x) (e : Event) :
    (∃ f, after? x e = .error f ∧ e.due cache history = .error f)
      ∨ ∃ y writes, after? x e = .ok y ∧ e.due cache history = .ok writes
        ∧ y.2.device.writes = x.2.device.writes ++ writes ∧ Remembers cache (e :: history) y := by
  cases e with
  | request r =>
      refine .inr ⟨_, _, rfl, rfl, (List.append_nil _).symm, ?_, h.armed_eq, h.q1_eq,
        h.withRun_eq⟩
      rw [waiting?_request]
      rfl
  | period m => exact h.period m
  | terminate =>
      refine .inr ⟨_, _, rfl, rfl, ?_, rfl, rfl, h.q1_eq, ?_⟩
      · show (disarm (setRun false x.2)).device.writes = _
        rw [writes_disarm, setRun, writes_write, h.withRun_eq, List.append_assoc]
        show _ ++ [_, writeOf 1 (withoutRequest x.2.cache.q1)] = _
        rw [h.q1_eq]
        rfl
      · intro run
        rw [← h.withRun_eq]
        exact withRun_withRun run false x.2.cache.q2

/-- **Run.** The induction goes along the events, and the history takes them up one by one. -/
lemma run (h : Remembers cache history x) (events : List Event) :
    (∃ f, run? x events = .error f ∧ due cache history events = .error f)
      ∨ ∃ y writes, run? x events = .ok y ∧ due cache history events = .ok writes
        ∧ y.2.device.writes = x.2.device.writes ++ writes
        ∧ Remembers cache (events.reverse ++ history) y := by
  induction events generalizing x history with
  | nil => exact .inr ⟨x, [], rfl, rfl, (List.append_nil _).symm, h⟩
  | cons e events ih =>
      rw [run?, List.foldlM_cons, due]
      rcases h.step e with ⟨f, hafter, hdue⟩ | ⟨y, writes, hafter, hdue, hwrites, hy⟩
      · exact .inl ⟨f, by rw [hafter]; rfl, by rw [hdue]; rfl⟩
      · rw [hafter, hdue]
        rcases ih hy with ⟨f, hrun, hrest⟩ | ⟨z, rest, hrun, hrest, hmore, hz⟩
        · exact .inl ⟨f, hrun, by simp only [bind, Except.bind, hrest]⟩
        · refine .inr ⟨z, writes ++ rest, hrun, ?_, ?_, ?_⟩
          · simp only [bind, Except.bind, hrest]
            rfl
          · rw [hmore, hwrites, List.append_assoc]
          · rw [List.reverse_cons, List.append_assoc]
            exact hz

end Remembers

/-! ## Requests written and requests made -/

/-- The requests written are among the one that waits and those still made, in order. -/
lemma taken_sublist (history events : List Event) :
    (taken history events).Sublist ((waiting? history).toList ++ made events) := by
  induction events generalizing history with
  | nil => exact List.nil_sublist _
  | cons e events ih =>
      cases e with
      | request r =>
          have hnewest : ((waiting? (.request r :: history)).toList ++ made events).Sublist
              (r :: made events) := by
            rw [waiting?_request]
            split
            · exact List.sublist_cons_self r (made events)
            · exact List.Sublist.refl (r :: made events)
          exact (ih _).trans (hnewest.trans (List.sublist_append_right _ _))
      | period m => exact (List.Sublist.refl _).append (ih (.period m :: history))
      | terminate => exact (ih (.terminate :: history)).trans (List.sublist_append_right _ _)

/-- **Requests are consumed once.** A run from the default output writes what its history says,
and ends with the request and the flag which the history says; it is a fault where the history
says so. The requests written are a sublist of those made, so none is written twice.

The rest says what is written. A start has the time code of the schedule, the set request with its
offset, and the run bit, in this order. A withdrawal has neither request nor offset, and an end
clears the run bit before. Whatever else these quadlets hold is from the cache. -/
theorem run?_writes (t : Target (Recorded δ)) (events : List Event) :
    (run? ({}, t) events).map (fun x => (x.2.device.writes, x.1.pending, x.1.armed))
        = (due t.cache [] events).map (fun writes =>
          (t.device.writes ++ writes, waiting? events.reverse, stands events.reverse))
      ∧ (taken [] events).Sublist (made events)
      ∧ (∀ r m s, schedule? r m = .ok s → ∃ q1 q2,
        launch t.cache s
            = [(writeOffset 0, s.timeCode.code), (writeOffset 1, q1), (writeOffset 2, q2)]
          ∧ AsksFor (s.offset % 0x4000) t.cache.q1 q1 ∧ HasRun true t.cache.q2 q2)
      ∧ (∃ q1, withdrawal t.cache = (writeOffset 1, q1) ∧ Carries false 0 t.cache.q1 q1)
      ∧ ∃ q2, writeOf 2 (withRun false t.cache.q2) = (writeOffset 2, q2)
        ∧ HasRun false t.cache.q2 q2 := by
  have hstart : Remembers t.cache [] (({} : Output), t) := ⟨rfl, rfl, rfl, fun _ => rfl⟩
  refine ⟨?_, taken_sublist [] events, fun r m s hschedule => exists_launch_eq hschedule t.cache,
    ⟨_, rfl, carries_withoutRequest t.cache.q1⟩, ⟨_, rfl, hasRun_withRun false t.cache.q2⟩⟩
  rcases hstart.run events with ⟨f, hrun, hdue⟩ | ⟨y, writes, hrun, hdue, hwrites, hy⟩
  · rw [hrun, hdue]
    rfl
  · rw [List.append_nil] at hy
    rw [hrun, hdue, Except.map, Except.map, hwrites, hy.pending_eq, hy.armed_eq]

/-- A request is launched at an interrupt and withdrawn at the next one. -/
theorem run?_writes_withdrawn :
    ∃ q1 q2 withdrawn,
      (run? (({} : Output), (⟨default, { q1 := 0xfffffeff }, { device := {} }⟩ :
          Target (Recorded Scripted)))
          [.request ⟨⟨0x10000000⟩, 64⟩, .period ⟨0, 32, 2, .hz48000, .fps24, false, 0⟩,
            .period ⟨32, 32, 2, .hz48000, .fps24, false, 0⟩]).map
          (fun x => (x.2.device.writes, x.1.pending, x.1.armed))
        = .ok ([(128, 0x10000000), (132, q1), (136, q2), (132, withdrawn)], none, false)
      ∧ AsksFor 0 0xfffffeff q1 ∧ HasRun true 0 q2 ∧ Carries false 0 0xfffffeff withdrawn := by
  have hstart : schedule? ⟨⟨0x10000000⟩, 64⟩ ⟨0, 32, 2, .hz48000, .fps24, false, 0⟩
      = .ok ⟨⟨0x10000000⟩, 32, 0, 0⟩ := by rfl
  obtain ⟨hrun, -, hlaunch, ⟨withdrawn, hwithdrawn, hcarries⟩, -⟩ :=
    run?_writes (⟨default, { q1 := 0xfffffeff }, { device := {} }⟩ : Target (Recorded Scripted))
      [.request ⟨⟨0x10000000⟩, 64⟩, .period ⟨0, 32, 2, .hz48000, .fps24, false, 0⟩,
        .period ⟨32, 32, 2, .hz48000, .fps24, false, 0⟩]
  obtain ⟨q1, q2, hwrites, hasks, hbit⟩ := hlaunch _ _ _ hstart
  refine ⟨q1, q2, withdrawn, ?_, hasks, hbit, hcarries⟩
  have hdue : due { q1 := 0xfffffeff } []
      [.request ⟨⟨0x10000000⟩, 64⟩, .period ⟨0, 32, 2, .hz48000, .fps24, false, 0⟩,
        .period ⟨32, 32, 2, .hz48000, .fps24, false, 0⟩]
      = .ok (launch { q1 := 0xfffffeff } ⟨⟨0x10000000⟩, 32, 0, 0⟩
        ++ [withdrawal { q1 := 0xfffffeff }]) := by rfl
  rw [hrun, hdue, hwrites, hwithdrawn]
  rfl

end TimecodeCard.Ltc.Output
