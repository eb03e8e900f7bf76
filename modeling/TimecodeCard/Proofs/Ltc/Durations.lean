import Mathlib.Data.List.GetD
import Mathlib.Tactic
import TimecodeCard.Ltc.Tracker

/-!
# The window and its history

The ring of a `Window` is overwritten slot by slot, and its total is kept by differences.
`Window.Holds` says what the two come to: with the durations ever recorded as a list, newest
first, the slots are its first 16 entries and the total is their sum. Recording a duration keeps
it so (`Window.Holds.record`), and is no fault as long as 16 durations together fit their word,
for which `maxDuration` bounds each.

`Tracker.Measures` is the same of a tracker, and `Tracker.Measures.boundary` its step: a boundary
is noted whenever it comes less than `maxDuration` after the one before, or before it.
-/

namespace TimecodeCard.Ltc

/-- A bound of durations, of which 16 fit a word. -/
def maxDuration : Nat := 2 ^ 60

/-! ## Recording a duration -/

namespace Window

/-- Whether the window is that of the durations, newest first. -/
structure Holds (w : Window) (durations : List Nat) : Prop where
  count_eq : w.count = durations.length
  total_eq : w.total = (durations.take 16).sum
  slot_eq : ∀ i j (hi : i < 16), j < 16 → (i + j + 1) % 16 = durations.length % 16 →
    w.slots[i] = durations.getD j 0

variable {w : Window} {durations : List Nat} {d : Nat}

lemma holds_nil : Holds {} [] where
  count_eq := rfl
  total_eq := rfl
  slot_eq i j hi _ _ := by simp

lemma sum_take_succ_getD (durations : List Nat) (n : Nat) :
    (durations.take (n + 1)).sum = (durations.take n).sum + durations.getD n 0 := by
  by_cases hn : n < durations.length
  · rw [List.sum_take_succ _ _ hn, List.getD_eq_getElem _ _ hn]
  · have hle : durations.length ≤ n := Nat.le_of_not_lt hn
    rw [List.take_of_length_le hle, List.take_of_length_le (by omega),
      List.getD_eq_default _ _ hle, Nat.add_zero]

lemma sum_take_lt (h : ∀ d ∈ durations, d < maxDuration) :
    (durations.take 15).sum ≤ 15 * maxDuration := by
  have hle : ∀ d ∈ durations.take 15, d ≤ maxDuration := by
    intro d hd
    exact (h d (List.mem_of_mem_take hd)).le
  have hsum := List.sum_le_card_nsmul _ _ hle
  have hlength : (durations.take 15).length ≤ 15 := List.length_take_le _ _
  rw [smul_eq_mul] at hsum
  exact le_trans hsum (Nat.mul_le_mul_right _ hlength)

/-- The duration of which the next one takes the place. -/
def oldest (w : Window) : Nat :=
  w.slots.get (Fin.ofNat 16 w.count)

/-- Without the oldest duration, the total is that of the newest 15. -/
lemma Holds.total_eq_add_oldest (h : w.Holds durations) :
    w.total = (durations.take 15).sum + w.oldest := by
  have holdest : w.oldest = durations.getD 15 0 := by
    refine h.slot_eq _ _ (Nat.mod_lt _ (by decide)) (by decide) ?_
    rw [h.count_eq]
    omega
  rw [h.total_eq, sum_take_succ_getD, holdest]

/-- The total has the oldest duration in it, and room for another in its place. -/
lemma Holds.total_fits (h : w.Holds durations) (hbound : ∀ d ∈ durations, d < maxDuration)
    (hd : d < maxDuration) : w.oldest ≤ w.total ∧ w.total - w.oldest + d < 2 ^ 64 := by
  have hsum := sum_take_lt hbound
  have htotal := h.total_eq_add_oldest
  unfold maxDuration at *
  omega

/-- Where the total has room for it, a duration is recorded unless the count leaves its word. -/
lemma record_eq (hle : w.oldest ≤ w.total) (hfit : w.total - w.oldest + d < 2 ^ 64) :
    w.record d = (Word.fit64 (w.count + 1)).map fun count =>
      { slots := w.slots.set (w.count % 16) d (Nat.mod_lt _ (by decide))
        total := w.total - w.oldest + d
        count } := by
  have hminus : Word.minus w.total w.oldest = .ok (w.total - w.oldest) :=
    Word.minus_eq_ok_iff.mpr ⟨hle, rfl⟩
  have htotal : Word.fit64 (w.total - w.oldest + d) = .ok (w.total - w.oldest + d) :=
    Word.fit64_eq_ok_iff.mpr ⟨hfit, rfl⟩
  show (Word.minus w.total w.oldest >>= _) = _
  rw [hminus]
  simp only [bind, Except.bind, htotal]
  cases Word.fit64 (w.count + 1) <;> rfl

lemma count_lt_of_record {w' : Window} (h : w.record d = .ok w') : w.count + 1 < 2 ^ 64 := by
  obtain ⟨kept, -, h⟩ := exists_of_bind_eq_ok h
  obtain ⟨total, -, h⟩ := exists_of_bind_eq_ok h
  obtain ⟨count, hcount, -⟩ := exists_of_bind_eq_ok h
  exact (Word.fit64_eq_ok_iff.mp hcount).1

/-- **Step.** A duration takes the place of the oldest one. -/
lemma Holds.record (h : w.Holds durations) (hbound : ∀ d ∈ durations, d < maxDuration)
    (hd : d < maxDuration) (hcount : w.count + 1 < 2 ^ 64) :
    ∃ w', w.record d = .ok w' ∧ w'.Holds (d :: durations) := by
  obtain ⟨hle, hfit⟩ := h.total_fits hbound hd
  have hnext : Word.fit64 (w.count + 1) = .ok (w.count + 1) :=
    Word.fit64_eq_ok_iff.mpr ⟨hcount, rfl⟩
  have hkept : w.total - w.oldest = (durations.take 15).sum := by
    rw [h.total_eq_add_oldest, Nat.add_sub_cancel]
  refine ⟨{
    slots := w.slots.set (w.count % 16) d (Nat.mod_lt _ (by decide))
    total := w.total - w.oldest + d
    count := w.count + 1 }, ?_, ?_, ?_, ?_⟩
  · rw [record_eq hle hfit, hnext]
    rfl
  · exact (congrArg (· + 1) h.count_eq).trans (List.length_cons ..).symm
  · rw [hkept, List.take_succ_cons, List.sum_cons, Nat.add_comm]
  · intro i j hi hj hij
    rw [List.length_cons] at hij
    have hcount' := h.count_eq
    rw [Vector.getElem_set]
    -- The newest duration is in the slot which was the oldest, and the others stay.
    cases j with
    | zero =>
        rw [if_pos (by omega)]
        rfl
    | succ j =>
        rw [if_neg (by omega), List.getD_cons_succ]
        exact h.slot_eq i j hi (by omega) (by omega)

/-- A longer average in microseconds never has a larger pull factor. -/
lemma perMille_antitone {short long fps : Nat} (hpos : 0 < short) (hle : short ≤ long) :
    (1000000000 / long + fps / 2) / fps ≤ (1000000000 / short + fps / 2) / fps :=
  Nat.div_le_div_right (Nat.add_le_add_right (Nat.div_le_div_left hle hpos) _)

end Window

/-! ## Boundaries -/

namespace Tracker

variable {t t' : Tracker} {durations : List Nat} {now : Nat}

/-- Whether the window of the tracker is that of the durations, newest first, none of which is
too long. -/
structure Measures (t : Tracker) (durations : List Nat) : Prop where
  holds : t.window.Holds durations
  bound : ∀ d ∈ durations, d < maxDuration

/-- Whether a boundary comes soon enough after the one before it. A clock may go backward by any
time. -/
def InTime (t : Tracker) (now : Nat) : Prop :=
  ∀ before, t.lastArrival = some before → now < before + maxDuration

/-- The durations after a boundary. -/
def durationsAt (t : Tracker) (now : Nat) (durations : List Nat) : List Nat :=
  match t.lastArrival with
  | none => durations
  | some before => (now - before) :: durations

/-- **Step.** A boundary in time is noted, with the duration since the one before, unless the
durations cannot be counted any more. -/
lemma Measures.boundary (h : t.Measures durations) (htime : t.InTime now)
    (hcount : t.window.count + 1 < 2 ^ 64) :
    ∃ t', t.boundary now = .ok t' ∧ t'.Measures (t.durationsAt now durations) := by
  rw [Tracker.boundary, measure, durationsAt]
  cases harrival : t.lastArrival with
  | none => exact ⟨_, rfl, h.holds, h.bound⟩
  | some before =>
      have hd : now - before < maxDuration := by
        have hlt := htime before harrival
        have hpos : 0 < maxDuration := by decide
        omega
      obtain ⟨w, hrecord, hw⟩ := h.holds.record h.bound hd hcount
      simp only [hrecord]
      exact ⟨_, rfl, hw, List.forall_mem_cons.mpr ⟨hd, h.bound⟩⟩

/-- A boundary which was noted leaves the durations short. -/
lemma Measures.of_boundary (h : t.Measures durations) (htime : t.InTime now)
    (hboundary : t.boundary now = .ok t') : t'.Measures (t.durationsAt now durations) := by
  cases harrival : t.lastArrival with
  | none =>
      rw [Tracker.boundary, measure, harrival] at hboundary
      obtain rfl := Except.ok.inj hboundary
      rw [durationsAt, harrival]
      exact ⟨h.holds, h.bound⟩
  | some before =>
      have hcount : t.window.count + 1 < 2 ^ 64 := by
        rw [Tracker.boundary, measure, harrival] at hboundary
        obtain ⟨w, hrecord, -⟩ := exists_of_map_eq_ok hboundary
        exact Window.count_lt_of_record hrecord
      obtain ⟨t'', hok, hmeasures⟩ := h.boundary htime hcount
      obtain rfl := Except.ok.inj (hok.symm.trans hboundary)
      exact hmeasures

lemma exists_period_eq {δ : Type} [Device δ] (t : Tracker) (d : δ) (frames speed : Nat) :
    ∃ timeCode startFrame pullFactor fresh, (t.period d frames speed).1
      = { t with timeCode, startFrame, pullFactor, fresh } := by
  unfold period
  split
  · exact ⟨_, _, _, _, rfl⟩
  · exact ⟨_, _, _, _, rfl⟩

lemma Measures.period {δ : Type} [Device δ] (h : t.Measures durations) (d : δ)
    (frames speed : Nat) : (t.period d frames speed).1.Measures durations := by
  obtain ⟨_, _, _, _, heq⟩ := t.exists_period_eq d frames speed
  rw [heq]
  exact ⟨h.holds, h.bound⟩

end Tracker

end TimecodeCard.Ltc
