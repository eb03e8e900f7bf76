import Mathlib.Tactic
import TimecodeCard.Proofs.Card.Tracking

/-!
# Whether the published position goes backward

A reading publishes the position of the stream rounded down to the period in force. With one period
for all readings this never goes backward. After a change to a longer period it may, because the
next reading rounds down further than the one before.

`Position.published?` lists what is published along a run. The main result is
`Position.published?_pairwise_iff`: the list never decreases exactly if each reading finds the
stream at or past a boundary of the period in force which is not before the position published
last (`Position.Reaches`). So it is when the period only becomes shorter
(`Position.reaches_of_neverLonger`), and when readings are taken at boundaries
(`Position.reaches_of_atBoundaries`), as the interrupts of a running stream are. Where a reading
comes too early for that, the position goes backward: `Position.published?_goes_backward`.
-/

namespace TimecodeCard.Position

/-! ## What is published along a run -/

/-- The published positions at first and after each event. -/
def published? (p : Position) : List Event → Except Fault (List Nat)
  | [] => .ok [p.frames]
  | event :: events => do
    let q ← p.after? event
    let rest ← q.published? events
    return p.frames :: rest

/-- Whether each reading finds the stream at or past a boundary of the period in force which is
not before the position published last. -/
def Reaches (published periodSize : Nat) : List Event → Prop
  | [] => True
  | .moved next :: events =>
    (∃ k, published ≤ k * periodSize ∧ k * periodSize ≤ next)
      ∧ Reaches (next / periodSize * periodSize) periodSize events
  | .resized periodSize _ :: events => Reaches published periodSize events

/-- Whether no change of the lengths makes the period longer. -/
def NeverLonger (periodSize : Nat) : List Event → Prop
  | [] => True
  | .moved _ :: events => NeverLonger periodSize events
  | .resized shorter _ :: events => shorter ≤ periodSize ∧ NeverLonger shorter events

/-- Whether each reading finds the stream at a boundary of the period in force. -/
def AtBoundaries (periodSize : Nat) : List Event → Prop
  | [] => True
  | .moved next :: events => periodSize ∣ next ∧ AtBoundaries periodSize events
  | .resized periodSize _ :: events => AtBoundaries periodSize events

variable {p : Position} {frames next published periodSize bufferSize : Nat} {events : List Event}

/-! ## Rounding down and boundaries -/

/-- The last boundary up to a position is not before another position exactly if some boundary lies
between the two. -/
lemma le_round_down_iff (hpos : 0 < periodSize) :
    published ≤ next / periodSize * periodSize
      ↔ ∃ k, published ≤ k * periodSize ∧ k * periodSize ≤ next := by
  constructor
  · intro h
    exact ⟨next / periodSize, h, Nat.div_mul_le_self next periodSize⟩
  · rintro ⟨k, hpublished, hnext⟩
    have hk : k ≤ next / periodSize := (Nat.le_div_iff_mul_le hpos).mpr hnext
    exact le_trans hpublished (Nat.mul_le_mul_right _ hk)

lemma IsLength.dvd_of_le {m n : Nat} (hm : IsLength m) (hn : IsLength n) (hle : m ≤ n) : m ∣ n := by
  obtain ⟨j, -, rfl⟩ := hm
  obtain ⟨k, -, rfl⟩ := hn
  exact Nat.pow_dvd_pow 2 ((Nat.pow_le_pow_iff_right (by decide)).mp hle)

/-! ## Runs -/

lemma pairwise_cons_self {n : Nat} {counts : List Nat} :
    (n :: n :: counts).Pairwise (· ≤ ·) ↔ (n :: counts).Pairwise (· ≤ ·) := by
  rw [← List.isChain_iff_pairwise, ← List.isChain_iff_pairwise, List.isChain_cons_cons]
  exact and_iff_right le_rfl

/-- **Run.** What is published never decreases exactly if the stream reaches a boundary at each
reading. The induction goes along the events, with the position published before them as the first
of the list. -/
lemma Tracks.published?_pairwise (h : p.Tracks frames) (hfollows : Follows frames events) :
    ∃ counts, p.published? events = .ok (p.frames :: counts)
      ∧ ((p.frames :: counts).Pairwise (· ≤ ·) ↔ Reaches p.frames p.periodSize events) := by
  induction events generalizing p frames with
  | nil => exact ⟨[], rfl, by simp [Reaches]⟩
  | cons event events ih =>
      cases event with
      | moved next =>
          obtain ⟨hle, hlt, hfit, hrest⟩ := hfollows
          obtain ⟨q, hupdate, hq, hperiod, -, hframes⟩ := h.update hle hlt hfit
          obtain ⟨counts, hcounts, hiff⟩ := ih hq hrest
          refine ⟨q.frames :: counts, ?_, ?_⟩
          · rw [published?, after?, hupdate]
            simp only [bind, Except.bind, hcounts]
            rfl
          · rw [← List.isChain_iff_pairwise, List.isChain_cons_cons, List.isChain_iff_pairwise,
              hiff, Reaches, ← le_round_down_iff h.periodSize.pos, hframes, hperiod]
      | resized periodSize bufferSize =>
          obtain ⟨hperiod, hbuffer, hrest⟩ := hfollows
          obtain ⟨counts, hcounts, hiff⟩ := ih (h.resize hperiod hbuffer) hrest
          refine ⟨p.frames :: counts, ?_, ?_⟩
          · rw [published?, after?]
            simp only [bind, Except.bind, hcounts]
            rfl
          · rw [pairwise_cons_self]
            exact hiff

/-- **When the position goes backward.** Along a run which the stream can take, no reading is a
fault, and what is published never decreases exactly if each reading finds the stream at or past a
boundary, of the period in force, which is not before the position published last. -/
theorem published?_pairwise_iff (hperiod : IsLength periodSize) (hbuffer : IsLength bufferSize)
    (hfollows : Follows 0 events) :
    ∃ counts, published? { periodSize, bufferSize } events = .ok counts
      ∧ (counts.Pairwise (· ≤ ·) ↔ Reaches 0 periodSize events) := by
  have hstart : Tracks { periodSize, bufferSize } 0 :=
    { pointer_lt := show 0 < pointerSpan by decide
      turns_add_pointer := by simp
      periodSize := hperiod
      bufferSize := hbuffer }
  obtain ⟨counts, hcounts, hiff⟩ := hstart.published?_pairwise hfollows
  exact ⟨0 :: counts, hcounts, hiff⟩

/-- A longer period does no harm when the stream has gone past its first boundary at the next
reading. -/
theorem published?_pairwise_iff_past_boundary :
    Follows 0 [.moved 8128, .resized 8192 16384, .moved 8208]
      ∧ Reaches 0 64 [.moved 8128, .resized 8192 16384, .moved 8208]
      ∧ ∃ counts,
        published? ⟨0, 0, 0, 64, 128⟩ [.moved 8128, .resized 8192 16384, .moved 8208] = .ok counts
          ∧ counts.Pairwise (· ≤ ·) := by
  have hfollows : Follows 0 [.moved 8128, .resized 8192 16384, .moved 8208] :=
    ⟨by decide, by decide, by decide, ⟨13, by decide, rfl⟩, ⟨14, by decide, rfl⟩,
      by decide, by decide, by decide, trivial⟩
  have hreaches : Reaches 0 64 [.moved 8128, .resized 8192 16384, .moved 8208] :=
    ⟨⟨127, by decide, by decide⟩, ⟨1, by decide, by decide⟩, trivial⟩
  obtain ⟨counts, hcounts, hiff⟩ :=
    published?_pairwise_iff ⟨6, by decide, rfl⟩ ⟨7, by decide, rfl⟩ hfollows
  exact ⟨hfollows, hreaches, counts, hcounts, hiff.mpr hreaches⟩

/-- Before that boundary the position goes backward: the stream moves on by 16 frames after the
period was lengthened, and the published position falls back to the start. -/
theorem published?_goes_backward :
    Follows 0 [.moved 8128, .resized 8192 16384, .moved 8144]
      ∧ published? ⟨0, 0, 0, 64, 128⟩ [.moved 8128, .resized 8192 16384, .moved 8144]
        = .ok [0, 8128, 8128, 0]
      ∧ ¬ [0, 8128, 8128, 0].Pairwise (· ≤ ·) := by
  refine ⟨⟨by decide, by decide, by decide, ⟨13, by decide, rfl⟩, ⟨14, by decide, rfl⟩,
    by decide, by decide, by decide, trivial⟩, ?_, by decide⟩
  decide

/-! ## Runs which never go backward -/

/-- With periods that only become shorter, the position published last is a boundary itself. -/
theorem reaches_of_neverLonger (hperiod : IsLength periodSize) (hdvd : periodSize ∣ published)
    (hle : published ≤ frames) (hfollows : Follows frames events)
    (hshorter : NeverLonger periodSize events) : Reaches published periodSize events := by
  induction events generalizing periodSize published frames with
  | nil => trivial
  | cons event events ih =>
      cases event with
      | moved next =>
          obtain ⟨hnext, -, -, hrest⟩ := hfollows
          refine ⟨⟨published / periodSize, ?_, ?_⟩, ?_⟩
          · rw [Nat.div_mul_cancel hdvd]
          · rw [Nat.div_mul_cancel hdvd]
            exact le_trans hle hnext
          · exact ih hperiod (Nat.dvd_mul_left _ _) (Nat.div_mul_le_self _ _) hrest hshorter
      | resized shorter bufferSize =>
          obtain ⟨hlength, -, hrest⟩ := hfollows
          obtain ⟨hshort, hevents⟩ := hshorter
          exact ih hlength (dvd_trans (hlength.dvd_of_le hperiod hshort) hdvd) hle hrest hevents

/-- At a boundary, the stream itself is where the position is published. -/
theorem reaches_of_atBoundaries (hle : published ≤ frames) (hfollows : Follows frames events)
    (hboundaries : AtBoundaries periodSize events) : Reaches published periodSize events := by
  induction events generalizing periodSize published frames with
  | nil => trivial
  | cons event events ih =>
      cases event with
      | moved next =>
          obtain ⟨hnext, -, -, hrest⟩ := hfollows
          obtain ⟨hdvd, hevents⟩ := hboundaries
          refine ⟨⟨next / periodSize, ?_, Nat.div_mul_le_self _ _⟩, ?_⟩
          · rw [Nat.div_mul_cancel hdvd]
            exact le_trans hle hnext
          · exact ih (Nat.div_mul_le_self _ _) hrest hevents
      | resized periodSize bufferSize =>
          obtain ⟨-, -, hrest⟩ := hfollows
          exact ih hle hrest hboundaries

end TimecodeCard.Position
