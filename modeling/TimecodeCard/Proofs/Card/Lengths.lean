import Mathlib.Tactic
import TimecodeCard.Card.Model
import TimecodeCard.Proofs.Card.Tracking

/-!
# Lengths of periods and buffers

For every latency code the period is a power of two, and so is the hardware buffer for it. Both are
lengths which a position can take (`Position.IsLength`). `CardModel.exists_latencyCode?_iff` says
which lengths of the period a model has.
-/

namespace TimecodeCard.CardModel

/-- Codes below the largest one stand for the same lengths on every model. -/
lemma periodSize_of_lt {latency : Nat} (h : latency < maxLatency) (model : CardModel) :
    model.periodSize latency = 2 ^ (6 + latency) := by
  rw [periodSize, if_neg (Nat.not_le.mpr h), Nat.shiftLeft_eq, Nat.pow_add]

/-- A period is a power of two, of at least 32 frames and at most half a turn of the pointer. -/
lemma exists_periodSize_eq (model : CardModel) (latency : Nat) :
    ∃ k, 5 ≤ k ∧ k ≤ 13 ∧ model.periodSize latency = 2 ^ k := by
  rcases Nat.lt_or_ge latency maxLatency with hlt | hge
  · have hseven : latency < 7 := hlt
    exact ⟨6 + latency, by omega, by omega, periodSize_of_lt hlt model⟩
  · rw [periodSize, if_pos hge]
    split
    · exact ⟨5, by decide, by decide, rfl⟩
    · exact ⟨13, by decide, by decide, rfl⟩

lemma periodSize_bounds (model : CardModel) (latency : Nat) :
    0 < model.periodSize latency ∧ model.periodSize latency ≤ 8192 := by
  obtain ⟨k, -, hk, heq⟩ := model.exists_periodSize_eq latency
  rw [heq]
  exact ⟨Nat.two_pow_pos k, Nat.pow_le_pow_right (by decide) hk⟩

lemma dvd_periodSize (model : CardModel) (latency : Nat) : 32 ∣ model.periodSize latency := by
  obtain ⟨k, hk, -, heq⟩ := model.exists_periodSize_eq latency
  rw [heq]
  exact Nat.pow_dvd_pow 2 hk

lemma isLength_periodSize (model : CardModel) (latency : Nat) :
    Position.IsLength (model.periodSize latency) := by
  obtain ⟨k, -, hk, heq⟩ := model.exists_periodSize_eq latency
  exact ⟨k, by omega, heq⟩

lemma isLength_bufferSize (model : CardModel) (latency : Nat) :
    Position.IsLength (model.bufferSize (model.periodSize latency)) := by
  obtain ⟨k, -, hk, heq⟩ := model.exists_periodSize_eq latency
  unfold bufferSize
  split
  · exact ⟨14, le_rfl, rfl⟩
  · exact ⟨k + 1, by omega, by rw [heq, Nat.pow_succ, Nat.mul_comm]⟩

/-- A model has the lengths from 64 to 4096, and one more for the largest code. -/
lemma exists_latencyCode?_iff (model : CardModel) (size : Nat) :
    (∃ latency, model.latencyCode? size = some latency)
      ↔ (∃ k, 6 ≤ k ∧ k ≤ 12 ∧ size = 2 ^ k) ∨ size = model.periodSize maxLatency := by
  have hfind : (∃ latency, model.latencyCode? size = some latency)
      ↔ ∃ latency ≤ maxLatency, model.periodSize latency = size := by
    rw [← Option.isSome_iff_exists, latencyCode?, List.find?_isSome]
    simp only [List.mem_range, Nat.lt_succ_iff, beq_iff_eq]
  rw [hfind]
  constructor
  · rintro ⟨latency, hle, rfl⟩
    rcases Nat.lt_or_eq_of_le hle with hlt | rfl
    · have hseven : latency < 7 := hlt
      exact .inl ⟨6 + latency, by omega, by omega, periodSize_of_lt hlt model⟩
    · exact .inr rfl
  · rintro (⟨k, hk, hk', rfl⟩ | rfl)
    · have hlt : k - 6 < maxLatency := show k - 6 < 7 by omega
      refine ⟨k - 6, hlt.le, ?_⟩
      rw [periodSize_of_lt hlt, Nat.add_sub_of_le hk]
    · exact ⟨maxLatency, le_rfl, rfl⟩

end TimecodeCard.CardModel
