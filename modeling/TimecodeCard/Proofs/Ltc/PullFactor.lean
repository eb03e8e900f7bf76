import Mathlib.Tactic
import TimecodeCard.Proofs.Ltc.History

/-!
# How close the pull factor is to the real speed

The real speed of the input over the nominal one, per mille, is `10^12 * count / (sum * fps)` for
durations of the given count and sum in nanoseconds. The pull factor comes from three quotients and
the rounding of the last one to the nearest number: the average in microseconds (`averageMicros`),
the rate which goes with it, per mille, and its ratio to the nominal rate.

Each quotient is kept as the two products which it lies between, and no remainder is ever bounded
alone. The average is rounded down, which makes the rate too high, by at most ten where the
average is ten milliseconds or more; rounding to the nearest leaves room for that.

The main result is `run?_estimates_speed`: after any history of boundaries the pull factor is less
than one away from the real speed, and among histories with as many durations a longer sum never has
a larger pull factor.
-/

namespace TimecodeCard.Ltc.Tracker

section Quotients

variable {durations others : List Nat} {fps : Nat}

/-! ## The three quotients -/

/-- The average duration in whole microseconds. -/
def averageMicros (durations : List Nat) : Nat :=
  durations.sum / durations.length / 1000

/-- Whether there are durations, and as many microseconds on average. -/
structure AverageAtLeast (micros : Nat) (durations : List Nat) : Prop where
  ne_nil : durations ≠ []
  le_sum : micros * (1000 * durations.length) ≤ durations.sum

namespace AverageAtLeast

lemma length_pos {micros : Nat} (h : AverageAtLeast micros durations) : 0 < durations.length :=
  List.length_pos_of_ne_nil h.ne_nil

lemma le_averageMicros {micros : Nat} (h : AverageAtLeast micros durations) :
    micros ≤ averageMicros durations := by
  have hpos := h.length_pos
  rw [averageMicros, Nat.div_div_eq_div_mul, Nat.mul_comm _ 1000,
    Nat.le_div_iff_mul_le (by omega)]
  exact h.le_sum

end AverageAtLeast

lemma averageMicros_bounds (hpos : 0 < durations.length) :
    averageMicros durations * (1000 * durations.length) ≤ durations.sum
      ∧ durations.sum < (averageMicros durations + 1) * (1000 * durations.length) := by
  rw [averageMicros, Nat.div_div_eq_div_mul, Nat.mul_comm _ 1000]
  exact ⟨Nat.div_mul_le_self _ _, Nat.lt_mul_of_div_lt (Nat.lt_succ_self _) (by omega)⟩

/-- Durations of ten milliseconds keep the pull factor off its ends, so that the rounded ratio is
all there is to it. -/
lemma pullOf_eq (hfps : 24 ≤ fps) (h : AverageAtLeast 10000 durations) :
    pullOf durations fps = (1000000000 / averageMicros durations + fps / 2) / fps := by
  have hmicros := h.le_averageMicros
  have hrate : 1000000000 / averageMicros durations ≤ 100000 :=
    Nat.div_le_of_le_mul (by omega)
  have hfit : (1000000000 / averageMicros durations + fps / 2) / fps ≤ 65535 := by
    refine Nat.div_le_of_le_mul ?_
    have := Nat.mul_le_mul_right 65535 hfps
    omega
  rw [pullOf, if_neg, ← averageMicros]
  · exact min_eq_left hfit
  · rintro (hnil | hzero | hzero)
    · exact h.ne_nil hnil
    · omega
    · rw [← averageMicros] at hzero
      omega

/-! ## The real speed -/

/-- From above, where the average was rounded down. -/
lemma pullOf_mul_lt (hfps : 24 ≤ fps) (h : AverageAtLeast 10000 durations) :
    pullOf durations fps * fps * durations.sum
      < 1000000000 * (1000 * durations.length) + fps * durations.sum := by
  obtain ⟨hbelow, habove⟩ := averageMicros_bounds h.length_pos
  have hmicros := h.le_averageMicros
  have hunit : 0 < 1000 * durations.length := Nat.mul_pos (by decide) h.length_pos
  rw [pullOf_eq hfps h]
  generalize averageMicros durations = micros at *
  generalize hrate : 1000000000 / micros = rate
  generalize 1000 * durations.length = unit at *
  have hproduct : rate * micros ≤ 1000000000 := hrate ▸ Nat.div_mul_le_self _ _
  have hsmall : rate ≤ 100000 := hrate ▸ Nat.div_le_of_le_mul (by omega)
  have hround : (rate + fps / 2) / fps * fps ≤ rate + fps / 2 := Nat.div_mul_le_self _ _
  -- The rate times the sum exceeds its share by one rounding of the average.
  have hshare : rate * durations.sum ≤ 1000000000 * unit + 100000 * unit := by
    calc rate * durations.sum
        ≤ rate * ((micros + 1) * unit) := Nat.mul_le_mul_left _ habove.le
      _ = rate * micros * unit + rate * unit := by ring
      _ ≤ 1000000000 * unit + 100000 * unit :=
          Nat.add_le_add (Nat.mul_le_mul_right _ hproduct) (Nat.mul_le_mul_right _ hsmall)
  have hroom : 100000 * unit < 12 * durations.sum := by
    have hsum := Nat.mul_le_mul_right unit hmicros
    omega
  have hhalf : 12 * durations.sum + fps / 2 * durations.sum ≤ fps * durations.sum := by
    rw [← Nat.add_mul]
    exact Nat.mul_le_mul_right _ (by omega)
  calc (rate + fps / 2) / fps * fps * durations.sum
      ≤ (rate + fps / 2) * durations.sum := Nat.mul_le_mul_right _ hround
    _ = rate * durations.sum + fps / 2 * durations.sum := Nat.add_mul ..
    _ < 1000000000 * unit + fps * durations.sum := by omega

/-- From below, where everything was rounded down. -/
lemma lt_pullOf_succ_mul (hfps : 24 ≤ fps) (h : AverageAtLeast 10000 durations) :
    1000000000 * (1000 * durations.length)
      < (pullOf durations fps + 1) * fps * durations.sum := by
  obtain ⟨hbelow, -⟩ := averageMicros_bounds h.length_pos
  have hmicros := h.le_averageMicros
  have hpos := h.length_pos
  rw [pullOf_eq hfps h]
  generalize averageMicros durations = micros at *
  generalize hrate : 1000000000 / micros = rate
  have hproduct : 1000000000 < (rate + 1) * micros :=
    hrate ▸ Nat.lt_mul_of_div_lt (Nat.lt_succ_self _) (by omega)
  have hround : rate + 1 ≤ ((rate + fps / 2) / fps + 1) * fps := by
    have hlt := Nat.lt_div_mul_add (a := rate + fps / 2) (by omega : 0 < fps)
    rw [Nat.add_mul, Nat.one_mul]
    omega
  calc 1000000000 * (1000 * durations.length)
      < (rate + 1) * micros * (1000 * durations.length) :=
        Nat.mul_lt_mul_of_pos_right hproduct (by omega)
    _ = (rate + 1) * (micros * (1000 * durations.length)) := Nat.mul_assoc ..
    _ ≤ (rate + 1) * durations.sum := Nat.mul_le_mul_left _ hbelow
    _ ≤ ((rate + fps / 2) / fps + 1) * fps * durations.sum := Nat.mul_le_mul_right _ hround

/-- The pull factor is less than one away from the real speed. -/
lemma abs_pullOf_sub_lt (hfps : 24 ≤ fps) (h : AverageAtLeast 10000 durations) :
    |(pullOf durations fps * durations.sum * fps : Int) - 1000000000000 * durations.length|
      < durations.sum * fps := by
  have habove := pullOf_mul_lt hfps h
  have hbelow := lt_pullOf_succ_mul hfps h
  rw [abs_sub_lt_iff]
  generalize durations.sum = sum at *
  zify at habove hbelow
  constructor <;> linarith

lemma pullOf_antitone (hfps : 24 ≤ fps) (h : AverageAtLeast 10000 durations)
    (hlength : others.length = durations.length) (hle : durations.sum ≤ others.sum) :
    pullOf others fps ≤ pullOf durations fps := by
  have hothers : AverageAtLeast 10000 others :=
    { ne_nil := List.ne_nil_of_length_pos (hlength ▸ h.length_pos)
      le_sum := by
        rw [hlength]
        exact h.le_sum.trans hle }
  have hmicros : averageMicros durations ≤ averageMicros others := by
    rw [averageMicros, averageMicros, hlength]
    exact Nat.div_le_div_right (Nat.div_le_div_right hle)
  have hpos : 0 < averageMicros durations := lt_of_lt_of_le (by decide) h.le_averageMicros
  rw [pullOf_eq hfps h, pullOf_eq hfps hothers]
  exact Window.perMille_antitone hpos hmicros

end Quotients

/-! ## Histories -/

variable {events : List Event} {t : Tracker} {fps : Nat}

/-- Whether the events lead from the start to the tracker, with some device for its registers. -/
def LeadTo (events : List Event) (t : Tracker) : Prop :=
  ∃ (δ : Type) (_ : Device δ) (d d' : δ) (notices : List (List Notice)),
    run? ({}, d) events = .ok ((t, d'), notices)

lemma LeadTo.holds (h : LeadTo events t) (hspaced : Spaced (arrivals events)) :
    t.window.Holds (durations (arrivals events.reverse)) := by
  obtain ⟨δ, _, d, d', notices, hrun⟩ := h
  rcases knows_default.run d events hspaced with ⟨t', d'', _, hrun', -, hknows⟩ | ⟨herror, -⟩
  · obtain ⟨⟨rfl, -⟩, -⟩ := Prod.mk.injEq .. ▸ Except.ok.inj (hrun.symm.trans hrun')
    rw [List.append_nil] at hknows
    exact hknows.measures.holds
  · exact nomatch hrun.symm.trans herror

/-- Events lead somewhere, unless they hold more boundaries than 64 bits can count. -/
lemma exists_leadTo (hspaced : Spaced (arrivals events))
    (hlength : (arrivals events.reverse).length ≤ 2 ^ 64) : ∃ t, LeadTo events t := by
  rcases knows_default.run ({} : Scripted) events hspaced with
    ⟨t, d', notices, hrun, -⟩ | ⟨-, hlong⟩
  · exact ⟨t, Scripted, inferInstance, {}, d', notices, hrun⟩
  · rw [List.append_nil] at hlong
    omega

/-- **The pull factor is the speed.** After any history of boundaries, whose recent durations are of
ten milliseconds or more on average, the tracker counts and adds up just these, and its pull factor
is less than one away from the real speed, per mille, of the input. No other history with as many
recent durations and a sum at least as long has a larger one. The rate may be 24 frames or any
higher one. -/
theorem run?_estimates_speed (hfps : 24 ≤ fps) (hspaced : Spaced (arrivals events))
    (hlead : LeadTo events t) (haverage : AverageAtLeast 10000 (recent events.reverse)) :
    min t.window.count 16 = (recent events.reverse).length
      ∧ t.window.total = (recent events.reverse).sum
      ∧ |(t.window.pullFactor fps * (recent events.reverse).sum * fps : Int)
          - 1000000000000 * (recent events.reverse).length|
        < (recent events.reverse).sum * fps
      ∧ ∀ (others : List Event) (u : Tracker), Spaced (arrivals others) → LeadTo others u →
        (recent others.reverse).length = (recent events.reverse).length →
        (recent events.reverse).sum ≤ (recent others.reverse).sum →
        u.window.pullFactor fps ≤ t.window.pullFactor fps := by
  have hholds := hlead.holds hspaced
  rw [pullFactor_eq_pullOf hholds]
  refine ⟨min_count_eq hholds, hholds.total_eq, abs_pullOf_sub_lt hfps haverage, ?_⟩
  intro others u hspaced' hlead' hlength hle
  rw [pullFactor_eq_pullOf (hlead'.holds hspaced')]
  exact pullOf_antitone hfps haverage hlength hle

/-- Twenty boundaries at the same distance. -/
def steady (duration : Nat) : List Event :=
  (List.range 20).map fun n => .boundary (duration * n)

/-- An input at 25 frames a second with frames of 41.5 milliseconds, and one with frames of 42. -/
theorem run?_estimates_speed_steady :
    Spaced (arrivals (steady 41500000)) ∧ Spaced (arrivals (steady 42000000))
      ∧ AverageAtLeast 10000 (recent (steady 41500000).reverse)
      ∧ ∃ t u, LeadTo (steady 41500000) t ∧ LeadTo (steady 42000000) u
        ∧ |(t.window.pullFactor 25 * (recent (steady 41500000).reverse).sum * 25 : Int)
              - 1000000000000 * (recent (steady 41500000).reverse).length|
            < (recent (steady 41500000).reverse).sum * 25
        ∧ t.window.pullFactor 25 = 964
        ∧ u.window.pullFactor 25 ≤ t.window.pullFactor 25 := by
  have hspaced : Spaced (arrivals (steady 41500000)) := by decide
  have hspaced' : Spaced (arrivals (steady 42000000)) := by decide
  have haverage : AverageAtLeast 10000 (recent (steady 41500000).reverse) :=
    { ne_nil := by decide
      le_sum := by decide }
  obtain ⟨t, hlead⟩ := exists_leadTo hspaced (by decide)
  obtain ⟨u, hlead'⟩ := exists_leadTo hspaced' (by decide)
  obtain ⟨-, -, hspeed, hslower⟩ :=
    run?_estimates_speed (by decide : 24 ≤ 25) hspaced hlead haverage
  refine ⟨hspaced, hspaced', haverage, t, u, hlead, hlead', hspeed, ?_, ?_⟩
  · rw [pullFactor_eq_pullOf (hlead.holds hspaced)]
    decide
  · exact hslower _ u hspaced' hlead' (by decide) (by decide)

end TimecodeCard.Ltc.Tracker
