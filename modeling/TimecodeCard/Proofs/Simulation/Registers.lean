import Mathlib.Tactic
import TimecodeCard.Simulation.Simulator
import TimecodeCard.Proofs.Card.RegisterCodec
import TimecodeCard.Proofs.Tco.Accesses
import TimecodeCard.Proofs.Tco.SignalCodec

/-!
# What the card finds in simulated registers

Reads of simulated registers change nothing. The registers find the control parameters which the
card has written (`Simulator.controlParams_eq`), and the card finds the pointer
(`Simulator.read_cardStatus`) and the status bank (`Simulator.readTimeCode_eq`), which shows the
time code at the input with its signals (`Simulator.showFeed_eq`). What the card writes to the time
code module goes to the control bank, and everything else of the registers, which is
`Simulator.outside`, stays.

A feed moves on by whole time code frames, and `Feed.advance_running` says how many of them a
number of samples comes to.
-/

namespace TimecodeCard

/-! ## Feed -/

lemma repeat_add {α : Type} (f : α → α) (m n : Nat) (a : α) :
    Nat.repeat f (m + n) a = Nat.repeat f n (Nat.repeat f m a) := by
  induction n with
  | zero => rfl
  | succ n ih => rw [Nat.repeat, ← ih, ← Nat.add_assoc, Nat.repeat]

namespace Feed

/-- The feed of the time code, so many samples after its start. -/
def running (timeCode : TimeCode) (rate : FrameRate) (dropFrame : Bool)
    (frameSize samples : Nat) : Feed where
  timeCode := Nat.repeat (TimeCode.increment (rate.counting dropFrame)) (samples / frameSize)
    timeCode
  rate
  dropFrame
  elapsed := samples % frameSize

variable {t : TimeCode} {rate : FrameRate} {dropFrame : Bool} {frameSize : Nat}

lemma crossAll_eq (n : Nat) (t : TimeCode) (elapsed : Nat) :
    (crossAll frameSize n ⟨t, rate, dropFrame, elapsed⟩).1.length = n
      ∧ (crossAll frameSize n ⟨t, rate, dropFrame, elapsed⟩).2
        = ⟨Nat.repeat (TimeCode.increment (rate.counting dropFrame)) n t, rate, dropFrame,
          elapsed - n * frameSize⟩ := by
  induction n generalizing t elapsed with
  | zero =>
      rw [Nat.zero_mul, Nat.sub_zero]
      exact ⟨rfl, rfl⟩
  | succ n ih =>
      obtain ⟨hlength, hlast⟩ := ih (t.increment (rate.counting dropFrame)) (elapsed - frameSize)
      have hrepeat := repeat_add (TimeCode.increment (rate.counting dropFrame)) 1 n t
      rw [Nat.repeat, Nat.repeat] at hrepeat
      have hcross : cross ⟨t, rate, dropFrame, elapsed⟩ frameSize
          = ⟨t.increment (rate.counting dropFrame), rate, dropFrame, elapsed - frameSize⟩ := rfl
      rw [crossAll, hcross]
      simp only [List.length_cons, hlength, hlast, true_and]
      rw [Nat.add_comm n 1, hrepeat, Nat.add_mul, Nat.one_mul, Nat.sub_sub]

/-- Each start leaves the samples which are over after the frames up to it. -/
lemma samples_of_crossAll {n i : Nat} {f : Feed} {fs : FrameStart}
    (h : (crossAll frameSize n f).1[i]? = some fs) : fs.samples = f.elapsed - (i + 1) * frameSize := by
  induction n generalizing i f with
  | zero => exact nomatch h
  | succ n ih =>
      rw [crossAll] at h
      cases i with
      | zero =>
          obtain rfl := Option.some.inj h
          rw [Nat.zero_add, Nat.one_mul]
          rfl
      | succ i =>
          have hrest := ih (show (crossAll frameSize n (f.cross frameSize)).1[i]? = some fs from h)
          rw [hrest, cross, Nat.sub_sub, Nat.succ_mul (i + 1), Nat.add_comm frameSize]

/-- **Advance.** The feed is where all samples so far lead, and the time code frames which have
started are those it has gone on by. -/
lemma advance_running (hsize : 0 < frameSize) (before samples : Nat) :
    ((running t rate dropFrame frameSize before).advance frameSize samples).1.length
        = (before + samples) / frameSize - before / frameSize
      ∧ ((running t rate dropFrame frameSize before).advance frameSize samples).2
        = running t rate dropFrame frameSize (before + samples) := by
  have hsplit := Nat.div_add_mod before frameSize
  have hdiv : (before + samples) / frameSize
      = before / frameSize + (before % frameSize + samples) / frameSize := by
    conv_lhs => rw [← hsplit, Nat.add_assoc, Nat.mul_add_div hsize]
  have hmod : (before + samples) % frameSize = before % frameSize + samples
      - (before % frameSize + samples) / frameSize * frameSize := by
    rw [← Nat.mod_add_mod, Nat.mod_eq_sub_div_mul]
  rw [running, running, hdiv, Nat.add_sub_cancel_left, hmod, repeat_add]
  exact crossAll_eq ((before % frameSize + samples) / frameSize) _ _

end Feed

/-! ## Registers -/

namespace Simulator

variable {s : Simulator} {d : Recorded Simulator}

/-- Everything but the control bank of the module. -/
def outside (s : Simulator) : Simulator :=
  { s with controlBank := {} }

lemma outside_write (d : Recorded Simulator) (n : Nat) (q : Quadlet) :
    (Tco.Access.write d n q).device.outside = d.device.outside := by
  have hcontrol : Tco.Access.writeOffset n ≠ Control.offset := by
    unfold Tco.Access.writeOffset Control.offset
    omega
  have hconfirm : Tco.Access.writeOffset n ≠ CardStatus.confirmOffset := by
    unfold Tco.Access.writeOffset CardStatus.confirmOffset
    omega
  show (d.device.writeAt (Tco.Access.writeOffset n) _).outside = _
  rw [writeAt, if_neg hcontrol, if_neg hconfirm]
  split <;> rfl

/-- What the module does on the device stays in the control bank. -/
lemma outside_steps {e : Recorded Simulator} (h : Tco.Access.Steps d e) :
    e.device.outside = d.device.outside :=
  h.eq_of_step (f := fun d : Recorded Simulator => d.device.outside) (fun _ _ => rfl) outside_write

lemma controlParams_eq {c : Control} (hcontrol : s.control = c.encode)
    (hlatency : c.latency ≤ maxLatency) : s.controlParams = c := by
  rw [controlParams, hcontrol, Control.decode_encode, min_eq_left hlatency]

lemma read_cardStatus (d : Recorded Simulator) :
    (CardStatus.read d).1 = d.device.cardStatus ∧ (CardStatus.read d).2.device = d.device := by
  have hpointer : d.device.cardStatus.bufferPointer < 0x400 := by
    have hlt : d.device.pointer % pointerSpan < 16384 := Nat.mod_lt _ (by decide)
    show d.device.pointer % pointerSpan / 16 < 0x400
    omega
  refine ⟨?_, rfl⟩
  show CardStatus.decode d.device.cardStatus.encode.1 d.device.cardStatus.encode.2 = _
  exact CardStatus.decode_encode hpointer

lemma hardwarePointer_cardStatus_eq (s : Simulator) :
    s.cardStatus.hardwarePointer = s.pointer % pointerSpan / 16 * 16 :=
  Nat.mod_eq_of_lt (lt_of_le_of_lt (Nat.div_mul_le_self _ _) (Nat.mod_lt _ (by decide)))

lemma hardwarePointer_cardStatus (hpointer : s.pointer < pointerSpan) (hdvd : 16 ∣ s.pointer) :
    s.cardStatus.hardwarePointer = s.pointer := by
  rw [hardwarePointer_cardStatus_eq, Nat.mod_eq_of_lt hpointer, Nat.div_mul_cancel hdvd]

lemma readAt_bank (hmodule : s.hasModule = true) {n : Nat} (hn : n < 4) :
    s.readAt (Tco.Access.readOffset n) = s.statusBank.get n := by
  have hindex : s.bankIndex? (Tco.Access.readOffset 0) (Tco.Access.readOffset n) = some n := by
    unfold bankIndex? Tco.Access.readOffset
    rw [if_pos ⟨hmodule, by omega, by omega⟩]
    congr 1
    omega
  have hoffset0 : Tco.Access.readOffset n ≠ CardStatus.offset0 := by
    unfold Tco.Access.readOffset CardStatus.offset0
    omega
  have hoffset2 : Tco.Access.readOffset n ≠ CardStatus.offset2 := by
    unfold Tco.Access.readOffset CardStatus.offset2
    omega
  rw [readAt, if_neg hoffset0, if_neg hoffset2, hindex]
  rfl

/-- A time code in the registers does not change while it is read. -/
lemma readTimeCode_eq (hmodule : d.device.hasModule = true) :
    (Tco.Access.readTimeCode d).1
        = { timeCode := ⟨d.device.statusBank.q0⟩
            signals := .decode d.device.statusBank.q1 }
      ∧ (Tco.Access.readTimeCode d).2.device = d.device := by
  have hread : ∀ e : Recorded Simulator, e.device = d.device → ∀ n < 4,
      (Tco.Access.read e n).1 = d.device.statusBank.get n := by
    intro e he n hn
    show e.device.readAt (Tco.Access.readOffset n) = _
    rw [he, readAt_bank hmodule hn]
  have hbefore := hread d rfl 0 (by decide)
  have hsignals := hread (Tco.Access.read d 0).2 rfl 1 (by decide)
  have hcode := hread (Tco.Access.read (Tco.Access.read d 0).2 1).2 rfl 0 (by decide)
  unfold Tco.Access.readTimeCode
  simp only
  rw [hbefore, hcode, hsignals, if_pos rfl]
  exact ⟨rfl, rfl⟩

/-- Whether the status bank has the time code of the feed and the samples since it started. -/
structure Shows (s : Simulator) (f : Feed) : Prop where
  timeCode_eq : s.statusBank.q0 = f.timeCode.code
  rate_eq : (Tco.Signals.decode s.statusBank.q1).rate = f.rate
  dropFrame_eq : (Tco.Signals.decode s.statusBank.q1).dropFrame = f.dropFrame
  offset_eq : (Tco.Signals.decode s.statusBank.q1).offset = f.elapsed % 0x4000

lemma showFeed_eq {f : Feed} (hfeed : s.feed = some f) :
    ∃ b, s.showFeed = { s with statusBank := b } ∧ s.showFeed.Shows f := by
  have hfits := Tco.Signals.fits_decode s.statusBank.q1
  have hdecode := Tco.Signals.decode_encode
    (s := { Tco.Signals.decode s.statusBank.q1 with
      timeCodeValid := true
      rate := f.rate
      dropFrame := f.dropFrame
      offset := f.elapsed % 0x4000 })
    ⟨hfits.quarterFrame_lt, Nat.mod_lt _ (by decide)⟩
  unfold showFeed
  rw [hfeed]
  exact ⟨_, rfl, rfl, congrArg Tco.Signals.rate hdecode, congrArg Tco.Signals.dropFrame hdecode,
    congrArg Tco.Signals.offset hdecode⟩

/-- A running engine moves the pointer by a period, raises the interrupt and lets the feed run. -/
lemma advance_eq {c : Control} {f : Feed} {periodSize frameSize : Nat}
    (hcontrol : s.control = c.encode) (hlatency : c.latency ≤ maxLatency)
    (hstarted : c.started = true) (henabled : c.interruptEnabled = true)
    (hfeed : s.feed = some f) (hperiodSize : s.model.periodSize c.latency = periodSize)
    (hframeSize : f.rate.frameSize (Tco.BaseRate.ofCard c.rate.base).hz = frameSize) :
    s.advance =
      ((f.advance frameSize (periodSize / c.rate.speed.factor)).1,
        showFeed { s with
          pointer := (s.pointer + periodSize) % pointerSpan
          interruptPending := true
          feed := some (f.advance frameSize (periodSize / c.rate.speed.factor)).2 }) := by
  unfold advance
  simp only [controlParams_eq hcontrol hlatency, hstarted, henabled, hfeed, hperiodSize,
    hframeSize, Bool.or_true, not_true_eq_false, if_false]

end Simulator

end TimecodeCard
