import Mathlib.Tactic
import TimecodeCard.Card.Basic

/-!
# MIDI messages and their bytes

MIDI tells the bytes of data from all others by their topmost bit: data is below 0x80, and a byte
from there on is a status byte. `MidiMessage.Fits` bounds the numbers of a message by the bits which
they have as data. Each message within them is read from its bytes (`MidiMessage.parse_bytes`).

The converse has a gap. A quarter frame with a status byte for its data is refused, but a full frame
is taken whatever its four bytes of data are. `MidiMessage.HasStatusInData` is that gap, and the
main result, `MidiMessage.parse_inverts_bytes_iff`, says that there is no other: reading is the
inverse of writing for exactly the strings of bytes outside it, and the card hears a boundary in
exactly the encodings of messages at a boundary, and in the gap. `MidiMessage.parse_takes_status`
shows two strings of bytes which are read as the same message.
-/

namespace TimecodeCard

namespace MidiMessage

/-! ## Encodings -/

/-- Whether the numbers of the message are within the bits of data which MIDI has for them. -/
def Fits : MidiMessage → Prop
  | .fullFrame rate hours minutes seconds frames =>
    rate < 4 ∧ hours < 32 ∧ minutes < 128 ∧ seconds < 128 ∧ frames < 128
  | .quarterFrame piece value => piece < 8 ∧ value < 16

/-- The bytes of a full frame with the four bytes for its data. -/
def fullFrameOf (rateHours minutes seconds frames : UInt8) : List UInt8 :=
  [0xf0, 0x7f, 0x7f, 0x01, 0x01, rateHours, minutes, seconds, frames, 0xf7]

/-- Whether the bytes are a full frame with a status byte among its four bytes of data. -/
def HasStatusInData (bytes : List UInt8) : Prop :=
  ∃ rateHours minutes seconds frames : UInt8,
    bytes = fullFrameOf rateHours minutes seconds frames
      ∧ ∃ b ∈ [rateHours, minutes, seconds, frames], 0x80 ≤ b

variable {m : MidiMessage} {bytes : List UInt8} {rateHours minutes seconds frames : UInt8}

lemma not_hasStatusInData_fullFrameOf
    (h : ¬ HasStatusInData (fullFrameOf rateHours minutes seconds frames)) :
    rateHours.toNat < 128 ∧ minutes.toNat < 128 ∧ seconds.toNat < 128 ∧ frames.toNat < 128 := by
  have hdata : ∀ b ∈ [rateHours, minutes, seconds, frames], b.toNat < 128 := by
    intro b hb
    by_contra hle
    exact h ⟨_, _, _, _, rfl, b, hb, UInt8.le_iff_toNat_le.mpr (Nat.not_lt.mp hle)⟩
  simp only [List.forall_mem_cons] at hdata
  exact ⟨hdata.1, hdata.2.1, hdata.2.2.1, hdata.2.2.2.1⟩

/-! ## Reading -/

lemma parse_fullFrameOf (rateHours minutes seconds frames : UInt8) :
    parse (fullFrameOf rateHours minutes seconds frames)
      = some (.fullFrame (rateHours.toNat / 32 % 4) (rateHours.toNat % 32) minutes.toNat
        seconds.toNat frames.toNat) := rfl

/-- What is read is a full frame, whatever its data, or a quarter frame with data below 0x80. -/
lemma parse_cases (h : parse bytes = some m) :
    (∃ rateHours minutes seconds frames, bytes = fullFrameOf rateHours minutes seconds frames)
      ∨ ∃ data : UInt8, data.toNat < 128 ∧ bytes = [0xf1, data]
        ∧ m = .quarterFrame (data.toNat / 16) (data.toNat % 16) := by
  unfold parse at h
  split at h
  · exact .inl ⟨_, _, _, _, rfl⟩
  · split at h
    · next data hdata =>
        exact .inr ⟨data, UInt8.lt_iff_toNat_lt.mp hdata, rfl, (Option.some.inj h).symm⟩
    · exact nomatch h
  · exact nomatch h

/-- **Round trip.** A message within its bits is read from its bytes. -/
lemma parse_bytes (h : m.Fits) : parse m.bytes = some m := by
  cases m with
  | fullFrame rate hours minutes seconds frames =>
      obtain ⟨hrate, hhours, hminutes, hseconds, hframes⟩ := h
      refine (parse_fullFrameOf _ _ _ _).trans ?_
      simp only [UInt8.toNat_ofNat', Option.some.injEq, fullFrame.injEq]
      omega
  | quarterFrame piece value =>
      obtain ⟨hpiece, hvalue⟩ := h
      have hdata : (UInt8.ofNat (piece * 16 + value)).toNat = piece * 16 + value := by
        rw [UInt8.toNat_ofNat']
        omega
      have hlt : UInt8.ofNat (piece * 16 + value) < 0x80 := by
        rw [UInt8.lt_iff_toNat_lt, hdata]
        exact show piece * 16 + value < 128 by omega
      refine (if_pos hlt).trans ?_
      simp only [hdata, Option.some.injEq, quarterFrame.injEq]
      omega

lemma Fits.not_hasStatusInData (h : m.Fits) : ¬ HasStatusInData m.bytes := by
  rintro ⟨_, _, _, _, heq, b, hb, hle⟩
  have hstatus : 128 ≤ b.toNat := UInt8.le_iff_toNat_le.mp hle
  cases m with
  | fullFrame rate hours minutes seconds frames =>
      obtain ⟨hrate, hhours, hminutes, hseconds, hframes⟩ := h
      simp only [bytes, fullFrameOf, List.cons.injEq, true_and, and_true] at heq
      obtain ⟨rfl, rfl, rfl, rfl⟩ := heq
      simp only [List.mem_cons, List.not_mem_nil, or_false] at hb
      rcases hb with rfl | rfl | rfl | rfl <;> rw [UInt8.toNat_ofNat'] at hstatus <;> omega
  | quarterFrame piece value => simp [bytes, fullFrameOf] at heq

/-- Outside the gap, what is read is the message whose bytes are there. -/
lemma bytes_of_parse (hclean : ¬ HasStatusInData bytes) (h : parse bytes = some m) :
    m.Fits ∧ m.bytes = bytes := by
  rcases parse_cases h with ⟨rateHours, minutes, seconds, frames, rfl⟩ | ⟨data, hdata, rfl, rfl⟩
  · obtain ⟨hrateHours, hminutes, hseconds, hframes⟩ := not_hasStatusInData_fullFrameOf hclean
    rw [parse_fullFrameOf] at h
    obtain rfl := Option.some.inj h
    refine ⟨⟨by omega, by omega, hminutes, hseconds, hframes⟩, ?_⟩
    have hjoin : rateHours.toNat / 32 % 4 * 32 + rateHours.toNat % 32 = rateHours.toNat := by omega
    simp only [bytes, hjoin, UInt8.ofNat_toNat, fullFrameOf]
  · have hjoin : data.toNat / 16 * 16 + data.toNat % 16 = data.toNat := by omega
    refine ⟨⟨by omega, by omega⟩, ?_⟩
    simp only [bytes, hjoin, UInt8.ofNat_toNat]

/-- Reading inverts writing exactly outside the gap. -/
lemma forall_parse_eq_some_iff :
    (∀ m, parse bytes = some m ↔ m.Fits ∧ m.bytes = bytes) ↔ ¬ HasStatusInData bytes := by
  constructor
  · rintro h ⟨rateHours, minutes, seconds, frames, rfl, hstatus⟩
    obtain ⟨hfits, heq⟩ := (h _).mp (parse_fullFrameOf rateHours minutes seconds frames)
    exact hfits.not_hasStatusInData ⟨_, _, _, _, heq, hstatus⟩
  · intro hclean m
    constructor
    · exact bytes_of_parse hclean
    · rintro ⟨hfits, rfl⟩
      exact parse_bytes hfits

/-- Of all the bits of a message, reading drops only the topmost one of the byte with rate and
hours. -/
lemma eq_or_eq_of_parse {other : List UInt8} (h : parse bytes = some m)
    (hother : parse other = some m) :
    other = bytes ∨ ∃ rateHours minutes seconds frames,
      bytes = fullFrameOf rateHours minutes seconds frames
        ∧ other = fullFrameOf (rateHours + 0x80) minutes seconds frames := by
  rcases parse_cases h with ⟨a, minutes, seconds, frames, rfl⟩ | ⟨data, hdata, rfl, rfl⟩
  · rcases parse_cases hother with ⟨b, minutes', seconds', frames', rfl⟩ | ⟨_, -, rfl, rfl⟩
    · rw [parse_fullFrameOf] at h hother
      obtain ⟨hrate, hhours, hminutes, hseconds, hframes⟩ :=
        fullFrame.injEq .. ▸ Option.some.inj (hother.trans h.symm)
      obtain rfl := UInt8.toNat_inj.mp hminutes
      obtain rfl := UInt8.toNat_inj.mp hseconds
      obtain rfl := UInt8.toNat_inj.mp hframes
      by_cases hsame : b.toNat = a.toNat
      · rw [UInt8.toNat_inj.mp hsame]
        exact .inl rfl
      · have hflip : b = a + 0x80 := by
          rw [← UInt8.toNat_inj, UInt8.toNat_add]
          show b.toNat = (a.toNat + 128) % 256
          have ha := a.toNat_lt
          have hb := b.toNat_lt
          omega
        exact .inr ⟨a, _, _, _, rfl, by rw [hflip]⟩
    · rw [parse_fullFrameOf] at h
      exact nomatch h
  · rcases parse_cases hother with ⟨b, minutes', seconds', frames', rfl⟩ | ⟨data', -, rfl, heq⟩
    · rw [parse_fullFrameOf] at hother
      exact nomatch hother
    · obtain ⟨hpiece, hvalue⟩ := quarterFrame.injEq .. ▸ heq
      have hsame : data' = data := by
        rw [← UInt8.toNat_inj]
        omega
      rw [hsame]
      exact .inl rfl

/-! ## Boundaries -/

/-- Whether the bytes are those of a message at a boundary, or in the gap. -/
def AtBoundary (bytes : List UInt8) : Prop :=
  HasStatusInData bytes ∨ ∃ m : MidiMessage, m.Fits ∧ m.IsBoundary ∧ m.bytes = bytes

lemma isBoundary_iff : Card.isBoundary bytes = true ↔ AtBoundary bytes := by
  rw [Card.isBoundary, Option.any_eq_true]
  simp only [decide_eq_true_eq]
  constructor
  · rintro ⟨m, hread, hboundary⟩
    by_cases hstatus : HasStatusInData bytes
    · exact .inl hstatus
    · obtain ⟨hfits, heq⟩ := bytes_of_parse hstatus hread
      exact .inr ⟨m, hfits, hboundary, heq⟩
  · rintro (⟨rateHours, minutes, seconds, frames, rfl, -⟩ | ⟨m, hfits, hboundary, rfl⟩)
    · exact ⟨_, parse_fullFrameOf rateHours minutes seconds frames, trivial⟩
    · exact ⟨m, parse_bytes hfits, hboundary⟩

end MidiMessage

/-- The card after a boundary has arrived, which the module notes if there is one. -/
def Card.noteBoundary? {δ : Type} (c : Card δ) (now : Nat) : Except Fault (Card δ) :=
  match c.module with
  | none => .ok c
  | some m => (m.boundary now).map fun m => { c with module := some m }

namespace MidiMessage

variable {δ : Type}

/-- **Reading inverts writing outside the gap.** For a string of bytes with no status byte in the
data of a full frame, and for no other, a message is read exactly if it is within its bits and the
string is its bytes. Two strings are read as the same message only if they differ in nothing but the
topmost bit of the byte with rate and hours. The card hears a boundary in the bytes of messages at a
boundary and in the gap, and any other string changes nothing. -/
theorem parse_inverts_bytes_iff (c : Card δ) (now : Nat) (bytes : List UInt8) :
    ((∀ m, parse bytes = some m ↔ m.Fits ∧ m.bytes = bytes) ↔ ¬ HasStatusInData bytes)
      ∧ (∀ other m, parse bytes = some m → parse other = some m →
        other = bytes ∨ ∃ rateHours minutes seconds frames,
          bytes = fullFrameOf rateHours minutes seconds frames
            ∧ other = fullFrameOf (rateHours + 0x80) minutes seconds frames)
      ∧ (AtBoundary bytes → c.midi bytes now = (c.noteBoundary? now).map (true, ·))
      ∧ (¬ AtBoundary bytes → c.midi bytes now = .ok (false, c)) := by
  refine ⟨forall_parse_eq_some_iff, fun _ _ => eq_or_eq_of_parse, ?_, ?_⟩
  · intro hboundary
    rw [Card.midi, if_pos (isBoundary_iff.mpr hboundary), Card.noteBoundary?]
    cases c.module with
    | none => rfl
    | some m =>
        simp only
        cases m.boundary now <;> rfl
  · intro hother
    rw [Card.midi, if_neg fun h => hother (isBoundary_iff.mp h)]

/-- A status byte in the place of rate and hours is taken for a full frame, and for the same one as
the data byte which differs in the topmost bit. -/
theorem parse_takes_status :
    parse [0xf0, 0x7f, 0x7f, 0x01, 0x01, 0x81, 0x02, 0x03, 0x04, 0xf7] = some (.fullFrame 0 1 2 3 4)
      ∧ parse [0xf0, 0x7f, 0x7f, 0x01, 0x01, 0x01, 0x02, 0x03, 0x04, 0xf7]
        = some (.fullFrame 0 1 2 3 4)
      ∧ ¬ ∀ (bytes : List UInt8) (m : MidiMessage),
        parse bytes = some m ↔ m.Fits ∧ m.bytes = bytes := by
  refine ⟨rfl, rfl, fun h => ?_⟩
  obtain ⟨-, heq⟩ :=
    (h [0xf0, 0x7f, 0x7f, 0x01, 0x01, 0x81, 0x02, 0x03, 0x04, 0xf7] (.fullFrame 0 1 2 3 4)).mp rfl
  exact absurd heq (by decide)

end MidiMessage

end TimecodeCard
