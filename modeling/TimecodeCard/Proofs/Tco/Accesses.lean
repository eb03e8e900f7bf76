import Mathlib.Tactic
import TimecodeCard.Proofs.Tco.Held
import TimecodeCard.Tco.Module

/-!
# What the module does to the device

The time code module reads the status bank and writes the control bank, and has no other access to
the device. `Tco.Access.Steps` says that such accesses lead from one device to another, and there is
one lemma for each operation of the module. So whatever no single access changes, no operation of
the module changes (`Tco.Access.Steps.eq_of_step`). An example are the registers below the control
bank, which belong to the card (`Tco.Access.Steps.lastWritten?_eq`).
-/

namespace TimecodeCard

open Relation (ReflTransGen)

variable {δ : Type} [Device δ]

namespace Tco.Access

/-- A single access to the banks of the module. -/
inductive Step : δ → δ → Prop
  | read (d : δ) (n : Nat) : Step d (Access.read d n).2
  | write (d : δ) (n : Nat) (q : Quadlet) : Step d (Access.write d n q)

/-- Whether accesses to the banks of the module lead from one device to the other. -/
abbrev Steps : δ → δ → Prop :=
  ReflTransGen Step

namespace Steps

variable {d d' : δ}

lemma read (h : Steps d d') (n : Nat) : Steps d (Access.read d' n).2 :=
  h.tail (.read d' n)

lemma write (h : Steps d d') (n : Nat) (q : Quadlet) : Steps d (Access.write d' n q) :=
  h.tail (.write d' n q)

lemma eq_of_step {α : Type} {f : δ → α} (hread : ∀ d n, f (Access.read d n).2 = f d)
    (hwrite : ∀ d n q, f (Access.write d n q) = f d) (h : Steps d d') : f d' = f d := by
  induction h with
  | refl => rfl
  | tail _ hlast ih =>
      cases hlast with
      | read n => rw [hread, ih]
      | write n q => rw [hwrite, ih]

lemma lastWritten?_eq {r r' : Recorded δ} (h : Steps r r') {offset : Nat} (hoffset : offset < 128) :
    r'.lastWritten? offset = r.lastWritten? offset := by
  have hwrite : ∀ (d : Recorded δ) n q,
      (Access.write d n q).lastWritten? offset = d.lastWritten? offset := by
    intro d n q
    have hne : offset ≠ writeOffset n := by
      unfold writeOffset
      omega
    rw [Access.write, Recorded.lastWritten?_write, if_neg hne]
  exact h.eq_of_step (f := fun d => d.lastWritten? offset) (fun _ _ => rfl) hwrite

end Steps

/-! ## Banks and time code -/

lemma steps_writeBank (d : δ) (b : Bank) : Steps d (writeBank d b) :=
  (((Steps.write .refl 0 b.q0).write 1 b.q1).write 2 b.q2).write 3 b.q3

lemma steps_readStatus (d : δ) : Steps d (readStatus d).2 :=
  (((Steps.read .refl 0).read 1).read 2).read 3

/-- The time code is read from quadlets 0 and 1, and possibly from quadlet 1 again. -/
lemma steps_readTimeCode (d : δ) : Steps d (readTimeCode d).2 := by
  have hthree : Steps d (Access.read (Access.read (Access.read d 0).2 1).2 0).2 :=
    ((Steps.read .refl 0).read 1).read 0
  unfold readTimeCode
  simp only
  split
  · exact hthree
  · exact hthree.read 1

end Tco.Access

open Tco.Access (Steps)

/-! ## Input and output -/

lemma Ltc.Tracker.steps_period (t : Tracker) (d : δ) (frames speed : Nat) :
    Steps d (t.period d frames speed).2.2 := by
  unfold period
  split
  · exact Tco.Access.steps_readTimeCode d
  · exact .refl

namespace Ltc.Output

lemma steps_disarm (t : Target δ) : Steps t.device (disarm t).device :=
  Steps.write .refl 1 _

lemma steps_arm (s : Scheduled) (t : Target δ) : Steps t.device (arm s t).device :=
  ((Steps.write .refl 0 _).write 1 _).write 2 _

lemma steps_period {o : Output} {t : Target δ} {m : Moment} {p : OutputPeriod δ}
    (h : o.period t m = .ok p) : Steps t.device p.target.device := by
  have hdisarmed : Steps t.device (if o.armed then disarm t else t).device := by
    split
    · exact steps_disarm t
    · exact .refl
  rcases period_cases h with ⟨-, rfl⟩ | ⟨r, s, -, -, rfl⟩
  · exact hdisarmed
  · exact hdisarmed.trans (steps_arm s _)

end Ltc.Output

/-! ## Operations of the module -/

namespace Tco.Module

lemma steps_start (d : δ) : Steps d (start d).2 :=
  (Access.steps_writeBank d _).trans (Access.steps_readStatus _)

lemma steps_configure (m : Module) (d : δ) (config : Config) :
    Steps d (m.configure d config).2.2 := by
  unfold configure
  split
  · exact .refl
  · exact Access.steps_writeBank d _

lemma steps_followCard (m : Module) (d : δ) (card : BaseFrequency) :
    Steps d (m.followCard d card).2.2 := by
  unfold followCard
  simp only
  split
  · exact Steps.write .refl 2 _
  · exact .refl

/-- The run bit is cleared, and then the request is withdrawn. -/
lemma steps_terminate (m : Module) (d : δ) : Steps d (m.terminate d).2 :=
  (Steps.write .refl 2 _).write 1 _

lemma steps_restore (m : Module) (d : δ) (s : Saved) : Steps d (m.restore d s).2 :=
  Access.steps_writeBank d s.cache

lemma steps_period {m : Module} {d : δ} {frames periodSize speed now : Nat} {p : ModulePeriod δ}
    (h : m.period d frames periodSize speed now = .ok p) : Steps d p.device := by
  obtain ⟨o, houtput, rfl⟩ := period_cases h
  exact (m.input.steps_period d frames speed).trans (Ltc.Output.steps_period houtput)

lemma steps_poll (m : Module) (d : δ) : Steps d (m.poll d).2.2 :=
  Access.steps_readStatus d

end Tco.Module

end TimecodeCard
