import Mathlib.Tactic
import TimecodeCard.Card.Position

/-!
# The position follows the stream

The hardware pointer tells the position of the stream only up to whole turns of `pointerSpan`
frames. As long as the stream moves on by less than a turn between two readings, `Position`
knows how many turns there were: `Position.Tracks` is the invariant, `Position.Tracks.update` its
step and `Position.Tracks.run?_append_moved` carries it over a run.

The main result is `Position.run?_exact`: in any order of readings and changes of the lengths,
a reading publishes the position of the stream rounded down to the period in force, and the
pointer within the buffer in force is the position modulo its length.
-/

namespace TimecodeCard.Position

/-! ## Runs of the stream -/

/-- Whether the number is a length of a period or of the hardware buffer: a power of two, up to
the span of the pointer. -/
def IsLength (n : Nat) : Prop :=
  ∃ k ≤ 14, n = 2 ^ k

/-- What happens to the position. -/
inductive Event
  /-- The stream has moved to the absolute position, and the pointer is read. -/
  | moved (frames : Nat)
  /-- The lengths of period and buffer change. -/
  | resized (periodSize bufferSize : Nat)

/-- The position after the event. The pointer is all that is read of the stream. -/
def after? (p : Position) : Event → Except Fault Position
  | .moved frames => p.update (frames % pointerSpan)
  | .resized periodSize bufferSize => .ok (p.resize periodSize bufferSize)

/-- The position after the events. -/
def run? (p : Position) (events : List Event) : Except Fault Position :=
  events.foldlM after? p

/-- Whether the stream can take the events from the position: it moves on by less than a turn
at a time, and lengths are in range. -/
def Follows (frames : Nat) : List Event → Prop
  | [] => True
  | .moved next :: events =>
    frames ≤ next ∧ next < frames + pointerSpan ∧ next < 2 ^ 64 ∧ Follows next events
  | .resized periodSize bufferSize :: events =>
    IsLength periodSize ∧ IsLength bufferSize ∧ Follows frames events

/-- The lengths of period and buffer in force after the events. -/
def inForce (periodSize bufferSize : Nat) : List Event → Nat × Nat
  | [] => (periodSize, bufferSize)
  | .moved _ :: events => inForce periodSize bufferSize events
  | .resized periodSize bufferSize :: events => inForce periodSize bufferSize events

/-- Whether the position knows that the stream is at the number of frames. -/
structure Tracks (p : Position) (frames : Nat) : Prop where
  pointer_lt : p.pointer < pointerSpan
  turns_add_pointer : p.turns * pointerSpan + p.pointer = frames
  periodSize : IsLength p.periodSize
  bufferSize : IsLength p.bufferSize

variable {p : Position} {frames next : Nat} {events : List Event}

/-! ## Powers of two as masks -/

lemma IsLength.pos {n : Nat} (h : IsLength n) : 0 < n := by
  obtain ⟨k, -, rfl⟩ := h
  exact Nat.two_pow_pos k

lemma IsLength.dvd_span {n : Nat} (h : IsLength n) : n ∣ pointerSpan := by
  obtain ⟨k, hk, rfl⟩ := h
  exact Nat.pow_dvd_pow 2 hk

/-- Clearing the lower bits of a 32-bit word rounds it down. -/
lemma and_clear_eq {x k : Nat} (hx : x < 2 ^ 32) (hk : k ≤ 14) :
    x &&& (2 ^ 32 - (2 ^ k - 1 + 1)) = x / 2 ^ k * 2 ^ k := by
  have hlt : 2 ^ k - 1 < 2 ^ 32 :=
    lt_of_le_of_lt (Nat.sub_le _ _) (Nat.pow_lt_pow_right (by decide) (by omega))
  refine Nat.eq_of_testBit_eq fun i => ?_
  rw [Nat.testBit_and, Nat.testBit_two_pow_sub_succ hlt, Nat.testBit_two_pow_sub_one,
    Nat.testBit_mul_two_pow, Nat.testBit_div_two_pow]
  by_cases hik : i < k
  · simp [hik, Nat.not_le.mpr hik]
  · have hki : k ≤ i := Nat.le_of_not_lt hik
    rw [Nat.sub_add_cancel hki]
    by_cases hi : i < 32
    · simp [hik, hki, hi]
    · have hout : x.testBit i = false := Nat.testBit_lt_two_pow
        (lt_of_lt_of_le hx (Nat.pow_le_pow_right (by decide) (Nat.le_of_not_lt hi)))
      simp [hout]

lemma alignDown_eq_ok {pointer size : Nat} (hpointer : pointer < pointerSpan)
    (hsize : IsLength size) : alignDown pointer size = .ok (pointer / size * size) := by
  obtain ⟨k, hk, rfl⟩ := hsize
  have hminus : Word.minus (2 ^ k) 1 = .ok (2 ^ k - 1) :=
    Word.minus_eq_ok_iff.mpr ⟨Nat.one_le_two_pow, rfl⟩
  have hlt : pointer < 2 ^ 32 := lt_trans hpointer (by decide)
  rw [alignDown, hminus, ← and_clear_eq hlt hk]
  rfl

lemma round_down_turns {size : Nat} (hsize : IsLength size) (turns pointer : Nat) :
    turns * pointerSpan + pointer / size * size
      = (turns * pointerSpan + pointer) / size * size := by
  obtain ⟨d, hd⟩ := hsize.dvd_span
  have hdiv : (turns * pointerSpan + pointer) / size = turns * d + pointer / size := by
    rw [hd, show turns * (size * d) + pointer = pointer + size * (turns * d) by ring,
      Nat.add_mul_div_left _ _ hsize.pos, Nat.add_comm]
  rw [hdiv, hd]
  ring

/-! ## One event -/

lemma Tracks.turnsAt_eq_ok (h : p.Tracks frames) (hle : frames ≤ next)
    (hlt : next < frames + pointerSpan) (hfit : next < 2 ^ 64) :
    p.turnsAt (next % pointerSpan) = .ok (next / pointerSpan) := by
  obtain ⟨hpointer, hframes, -, -⟩ := h
  unfold pointerSpan at *
  by_cases hwrap : next % 16384 < p.pointer
  · have hturns : next / 16384 = p.turns + 1 := by omega
    rw [turnsAt, if_pos hwrap, hturns]
    exact Word.fit64_eq_ok_iff.mpr ⟨by omega, rfl⟩
  · have hturns : next / 16384 = p.turns := by omega
    rw [turnsAt, if_neg hwrap, hturns]

/-- **Step.** A reading less than a turn after the last one is not a fault. It brings the position
to the stream and publishes it rounded down to the period. -/
lemma Tracks.update (h : p.Tracks frames) (hle : frames ≤ next)
    (hlt : next < frames + pointerSpan) (hfit : next < 2 ^ 64) :
    ∃ q, p.update (next % pointerSpan) = .ok q ∧ q.Tracks next
      ∧ q.periodSize = p.periodSize ∧ q.bufferSize = p.bufferSize
      ∧ q.frames = next / q.periodSize * q.periodSize := by
  have hpointer : next % pointerSpan < pointerSpan := Nat.mod_lt _ (by decide)
  have hsplit : next / pointerSpan * pointerSpan + next % pointerSpan = next :=
    Nat.div_add_mod' next pointerSpan
  have hround := round_down_turns h.periodSize (next / pointerSpan) (next % pointerSpan)
  rw [hsplit] at hround
  have hstart : Word.fit64 (next / pointerSpan * pointerSpan)
      = .ok (next / pointerSpan * pointerSpan) :=
    Word.fit64_eq_ok_iff.mpr ⟨by omega, rfl⟩
  have hframes : Word.fit64 (next / p.periodSize * p.periodSize)
      = .ok (next / p.periodSize * p.periodSize) :=
    Word.fit64_eq_ok_iff.mpr ⟨lt_of_le_of_lt (Nat.div_mul_le_self _ _) hfit, rfl⟩
  refine ⟨{ p with
    pointer := next % pointerSpan
    turns := next / pointerSpan
    frames := next / p.periodSize * p.periodSize }, ?_, ?_, rfl, rfl, rfl⟩
  · rw [Position.update, Nat.mod_mod, h.turnsAt_eq_ok hle hlt hfit,
      alignDown_eq_ok hpointer h.periodSize]
    simp only [bind, Except.bind, hstart, hround, hframes]
    rfl
  · exact ⟨hpointer, hsplit, h.periodSize, h.bufferSize⟩

lemma Tracks.resize (h : p.Tracks frames) {periodSize bufferSize : Nat}
    (hperiod : IsLength periodSize) (hbuffer : IsLength bufferSize) :
    (p.resize periodSize bufferSize).Tracks frames :=
  ⟨h.pointer_lt, h.turns_add_pointer, hperiod, hbuffer⟩

lemma Tracks.bufferPointer_eq_ok (h : p.Tracks frames) :
    p.bufferPointer = .ok (frames % p.bufferSize) := by
  have hmod : frames % p.bufferSize = p.pointer % p.bufferSize := by
    obtain ⟨d, hd⟩ := h.bufferSize.dvd_span
    rw [← h.turns_add_pointer, hd,
      show p.turns * (p.bufferSize * d) + p.pointer
        = p.pointer + p.bufferSize * (p.turns * d) by ring, Nat.add_mul_mod_self_left]
  obtain ⟨k, hk, hsize⟩ := h.bufferSize
  have hminus : Word.minus p.bufferSize 1 = .ok (2 ^ k - 1) :=
    Word.minus_eq_ok_iff.mpr ⟨h.bufferSize.pos, by rw [hsize]⟩
  have hmask : (2 ^ k - 1) % 0x10000 = 2 ^ k - 1 := by
    have hle : 2 ^ k ≤ 2 ^ 14 := Nat.pow_le_pow_right (by decide) hk
    exact Nat.mod_eq_of_lt (by omega)
  rw [hmod, hsize, ← Nat.and_two_pow_sub_one_eq_mod, bufferPointer, hminus]
  simp only [bind, Except.bind, hmask]
  rfl

/-! ## Runs -/

/-- **Run.** Events which the stream can take end with the position at the stream. The induction
goes along the events, and each one keeps the invariant. -/
lemma Tracks.run?_append_moved (h : p.Tracks frames)
    (hfollows : Follows frames (events ++ [Event.moved next])) :
    ∃ q, p.run? (events ++ [Event.moved next]) = .ok q ∧ q.Tracks next
      ∧ (q.periodSize, q.bufferSize) = inForce p.periodSize p.bufferSize events
      ∧ q.frames = next / q.periodSize * q.periodSize := by
  induction events generalizing p frames with
  | nil =>
      obtain ⟨hle, hlt, hfit, -⟩ := hfollows
      obtain ⟨q, hupdate, hq, hperiod, hbuffer, hframes⟩ := h.update hle hlt hfit
      refine ⟨q, ?_, hq, ?_, hframes⟩
      · rw [run?, List.nil_append, List.foldlM_cons, after?, hupdate]
        rfl
      · rw [inForce, hperiod, hbuffer]
  | cons event events ih =>
      cases event with
      | moved between =>
          obtain ⟨hle, hlt, hfit, hrest⟩ := hfollows
          obtain ⟨q, hupdate, hq, hperiod, hbuffer, -⟩ := h.update hle hlt hfit
          obtain ⟨s, hrun, hs, hlengths, hframes⟩ := ih hq hrest
          refine ⟨s, ?_, hs, ?_, hframes⟩
          · rw [run?, List.cons_append, List.foldlM_cons, after?, hupdate]
            exact hrun
          · rw [hlengths, hperiod, hbuffer, inForce]
      | resized periodSize bufferSize =>
          obtain ⟨hperiod, hbuffer, hrest⟩ := hfollows
          obtain ⟨s, hrun, hs, hlengths, hframes⟩ := ih (h.resize hperiod hbuffer) hrest
          refine ⟨s, ?_, hs, ?_, hframes⟩
          · rw [run?, List.cons_append, List.foldlM_cons, after?]
            exact hrun
          · rw [hlengths, inForce]
            rfl

/-- **The position is exact.** Right after each reading in a run, the published position is that
of the stream rounded down to the period in force, and the pointer within the buffer in force
is the position modulo its length. -/
theorem run?_exact {periodSize bufferSize : Nat} (hperiod : IsLength periodSize)
    (hbuffer : IsLength bufferSize) (hfollows : Follows 0 (events ++ [Event.moved next])) :
    ∃ q, run? { periodSize, bufferSize } (events ++ [Event.moved next]) = .ok q
      ∧ (q.periodSize, q.bufferSize) = inForce periodSize bufferSize events
      ∧ q.frames = next / q.periodSize * q.periodSize
      ∧ q.bufferPointer = .ok (next % q.bufferSize) := by
  have hstart : Tracks { periodSize, bufferSize } 0 :=
    { pointer_lt := show 0 < pointerSpan by decide
      turns_add_pointer := by simp
      periodSize := hperiod
      bufferSize := hbuffer }
  obtain ⟨q, hrun, hq, hlengths, hframes⟩ := hstart.run?_append_moved hfollows
  exact ⟨q, hrun, hlengths, hframes, hq.bufferPointer_eq_ok⟩

/-- A turn which ends at the pointer it started from, with the lengths changed on the way. -/
theorem run?_exact_whole_turn :
    Follows 0
        ([Event.moved 600, .resized 64 1024, .moved 16983, .resized 512 16384]
          ++ [Event.moved 16984])
      ∧ ∃ q, run? ⟨0, 0, 0, 32, 64⟩
          ([Event.moved 600, .resized 64 1024, .moved 16983, .resized 512 16384]
            ++ [Event.moved 16984]) = .ok q
        ∧ (q.periodSize, q.bufferSize) = (512, 16384)
        ∧ q.frames = 16984 / q.periodSize * q.periodSize
        ∧ q.bufferPointer = .ok (16984 % q.bufferSize) := by
  have hfollows : Follows 0
      ([Event.moved 600, .resized 64 1024, .moved 16983, .resized 512 16384]
        ++ [Event.moved 16984]) := by
    refine ⟨by decide, by decide, by decide, ⟨6, by decide, rfl⟩, ⟨10, by decide, rfl⟩,
      by decide, by decide, by decide, ⟨9, by decide, rfl⟩, ⟨14, by decide, rfl⟩,
      by decide, by decide, by decide, trivial⟩
  exact ⟨hfollows, run?_exact ⟨5, by decide, rfl⟩ ⟨6, by decide, rfl⟩ hfollows⟩

end TimecodeCard.Position
