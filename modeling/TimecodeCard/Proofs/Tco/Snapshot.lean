import Mathlib.Tactic
import TimecodeCard.Tco.Access

/-!
# A reading belongs to one instant

The time code at the input and its offset stand in two registers, and hardware goes on while they
are read. A `Timeline` is hardware seen that way: each register holds anything at any instant, and
the accesses come at instants of their own, so that a change may fall before, between or after any
of them. Hardware which reacts to being read has a timeline along each of its runs
(`Timeline.readTimeCode_along`).

Reading takes quadlet 0, quadlet 1 and quadlet 0 again, and quadlet 1 once more if both time codes
differ. The main result is `Timeline.readTimeCode_snapshot`: as long as quadlet 0 takes a new value
at most once meanwhile, the reading is what both registers held at one instant, that of the last
access to quadlet 1.

The argument is that of two spans in a row at most one sees the change
(`ChangesAtMostOnce.eq_or_eq`). If both time codes are the same then quadlet 0 was still between
them, and if they differ then it has been still since the second.
-/

namespace TimecodeCard

/-! ## At most one change -/

/-- Whether at most one instant from the first to the last brings a new value. -/
def ChangesAtMostOnce (value : Nat → Quadlet) (first last : Nat) : Prop :=
  ∀ i j, first ≤ i → i < last → first ≤ j → j < last →
    value i ≠ value (i + 1) → value j ≠ value (j + 1) → i = j

variable {value : Nat → Quadlet} {first last i j k : Nat}

/-- Between two instants with different values there is one which brings a new value. -/
lemma exists_change_of_ne (hle : i ≤ j) (hne : value i ≠ value j) :
    ∃ k, i ≤ k ∧ k < j ∧ value k ≠ value (k + 1) := by
  induction j, hle using Nat.le_induction with
  | base => exact absurd rfl hne
  | succ j hle ih =>
      by_cases hstill : value j = value (j + 1)
      · obtain ⟨k, hik, hkj, hchange⟩ := ih (hstill ▸ hne)
        exact ⟨k, hik, Nat.lt_succ_of_lt hkj, hchange⟩
      · exact ⟨j, hle, Nat.lt_succ_self j, hstill⟩

/-- Of two spans in a row, at most one sees the change. -/
lemma ChangesAtMostOnce.eq_or_eq (h : ChangesAtMostOnce value first last) (hfirst : first ≤ i)
    (hij : i ≤ j) (hjk : j ≤ k) (hlast : k ≤ last) :
    value i = value j ∨ value j = value k := by
  by_contra hboth
  obtain ⟨hij', hjk'⟩ := not_or.mp hboth
  obtain ⟨a, hia, haj, ha⟩ := exists_change_of_ne hij hij'
  obtain ⟨b, hjb, hbk, hb⟩ := exists_change_of_ne hjk hjk'
  have hsame := h a b (by omega) (by omega) (by omega) (by omega) ha hb
  omega

/-! ## Hardware over time -/

/-- Hardware whose registers change on their own, at any instant and in any way. -/
structure Timeline where
  /-- The quadlet which stands at the offset of the read side, at each instant. -/
  held : Nat → Nat → Quadlet
  /-- The instants of the accesses still to come. -/
  access : Nat → Nat

instance : Device Timeline where
  read x offset := (x.held (x.access 0) offset, { x with access := fun n => x.access (n + 1) })
  write x _ _ := { x with access := fun n => x.access (n + 1) }

namespace Timeline

open Tco.Access (readOffset)

/-- What the quadlet of the status bank holds at the instant. -/
def status (x : Timeline) (n instant : Nat) : Quadlet :=
  x.held instant (readOffset n)

/-- The time code and the signals at the instant. -/
def snapshot (x : Timeline) (instant : Nat) : Tco.Access.Reading where
  timeCode := ⟨x.status 0 instant⟩
  signals := .decode (x.status 1 instant)

/-- Reading the time code, with the log of what is read. -/
def readTimeCode (x : Timeline) : Tco.Access.Reading × Recorded Timeline :=
  Tco.Access.readTimeCode { device := x }

/-- The instant of the last access which reading the time code takes. -/
def lastAccess (x : Timeline) : Nat :=
  x.access (x.readTimeCode.2.reads.length - 1)

variable {x : Timeline}

lemma readTimeCode_of_eq (h : x.status 0 (x.access 0) = x.status 0 (x.access 2)) :
    x.readTimeCode.2.reads = [readOffset 0, readOffset 1, readOffset 0]
      ∧ x.readTimeCode.1 = ⟨⟨x.status 0 (x.access 2)⟩, .decode (x.status 1 (x.access 1))⟩ := by
  have hread : x.readTimeCode = _ := if_pos h.symm
  rw [hread]
  exact ⟨rfl, rfl⟩

lemma readTimeCode_of_ne (h : x.status 0 (x.access 0) ≠ x.status 0 (x.access 2)) :
    x.readTimeCode.2.reads = [readOffset 0, readOffset 1, readOffset 0, readOffset 1]
      ∧ x.readTimeCode.1 = ⟨⟨x.status 0 (x.access 2)⟩, .decode (x.status 1 (x.access 3))⟩ := by
  have hread : x.readTimeCode = _ := if_neg (Ne.symm h)
  rw [hread]
  exact ⟨rfl, rfl⟩

/-! ## Any device -/

section Device

variable {δ : Type} [Device δ]

/-- The device after so many accesses to quadlets 0 and 1 by turns. -/
def turns (d : δ) : Nat → δ
  | 0 => d
  | n + 1 => (Tco.Access.read (turns d n) (n % 2)).2

/-- What the registers of a device hold along the accesses of one reading. -/
def along (d : δ) : Timeline where
  held instant offset := (Device.read (turns d instant) offset).1
  access := id

/-- Any device gives the reading which its timeline gives. -/
lemma readTimeCode_along (d : δ) :
    (along d).readTimeCode.1 = (Tco.Access.readTimeCode d).1 := by
  by_cases h : (along d).status 0 ((along d).access 0) = (along d).status 0 ((along d).access 2)
  · have hread : Tco.Access.readTimeCode d = _ := if_pos h.symm
    have hlog : (along d).readTimeCode = _ := if_pos h.symm
    rw [hread, hlog]
    rfl
  · have hread : Tco.Access.readTimeCode d = _ := if_neg (Ne.symm h)
    have hlog : (along d).readTimeCode = _ := if_neg (Ne.symm h)
    rw [hread, hlog]
    rfl

end Device

/-! ## One instant -/

/-- **A reading belongs to one instant.** If quadlet 0 takes a new value at most once from the first
access to the last, then at the instant of the last access to quadlet 1 both registers held what the
reading says. -/
theorem readTimeCode_snapshot (hordered : Monotone x.access)
    (hchange : ChangesAtMostOnce (x.status 0) (x.access 0) x.lastAccess) :
    ∃ before after, x.readTimeCode.2.reads = before ++ readOffset 1 :: after
      ∧ readOffset 1 ∉ after ∧ x.readTimeCode.1 = x.snapshot (x.access before.length) := by
  have hfirst : x.access 0 ≤ x.access 1 := hordered (by omega)
  have hsecond : x.access 1 ≤ x.access 2 := hordered (by omega)
  have hthird : x.access 2 ≤ x.access 3 := hordered (by omega)
  by_cases hsame : x.status 0 (x.access 0) = x.status 0 (x.access 2)
  · obtain ⟨hreads, hreading⟩ := readTimeCode_of_eq hsame
    rw [lastAccess, hreads] at hchange
    -- A change between the readings would have to be undone, and that is one more change.
    have hstill : x.status 0 (x.access 1) = x.status 0 (x.access 2) := by
      rcases hchange.eq_or_eq le_rfl hfirst hsecond le_rfl with heq | heq
      · rw [← heq, hsame]
      · exact heq
    refine ⟨[readOffset 0], [readOffset 0], hreads, by simp [readOffset], ?_⟩
    show x.readTimeCode.1 = x.snapshot (x.access 1)
    rw [hreading, snapshot, hstill]
  · obtain ⟨hreads, hreading⟩ := readTimeCode_of_ne hsame
    rw [lastAccess, hreads] at hchange
    -- The one change has come before the second reading.
    have hstill : x.status 0 (x.access 2) = x.status 0 (x.access 3) := by
      rcases hchange.eq_or_eq le_rfl (hfirst.trans hsecond) hthird le_rfl with heq | heq
      · exact absurd heq hsame
      · exact heq
    refine ⟨[readOffset 0, readOffset 1, readOffset 0], [], hreads, by simp, ?_⟩
    show x.readTimeCode.1 = x.snapshot (x.access 3)
    rw [hreading, snapshot, hstill]

/-- Hardware whose time code changes right after quadlet 1 was read, and whose quadlet 1 never
stands still. -/
def changing : Timeline where
  held instant offset := if offset = 256 then (if instant < 2 then 5 else 6) else .ofNat 32 instant
  access := id

/-- The reading has the new time code, and the quadlet 1 which was read again. -/
theorem readTimeCode_snapshot_changing :
    Monotone changing.access
      ∧ ChangesAtMostOnce (changing.status 0) (changing.access 0) changing.lastAccess
      ∧ (∃ before after, changing.readTimeCode.2.reads = before ++ readOffset 1 :: after
        ∧ readOffset 1 ∉ after
        ∧ changing.readTimeCode.1 = changing.snapshot (changing.access before.length))
      ∧ changing.readTimeCode.1 = changing.snapshot 3 := by
  have hordered : Monotone changing.access := monotone_id
  have hone : ∀ i, changing.status 0 i ≠ changing.status 0 (i + 1) → i = 1 := by
    intro i hne
    by_contra hi
    refine hne ?_
    show (if i < 2 then 5 else 6 : Quadlet) = if i + 1 < 2 then 5 else 6
    by_cases hlt : i < 2
    · rw [if_pos hlt, if_pos (by omega)]
    · rw [if_neg hlt, if_neg (by omega)]
  have hchange : ChangesAtMostOnce (changing.status 0) (changing.access 0) changing.lastAccess := by
    intro i j _ _ _ _ hi hj
    rw [hone i hi, hone j hj]
  exact ⟨hordered, hchange, readTimeCode_snapshot hordered hchange, by rfl⟩

end Timeline

end TimecodeCard
