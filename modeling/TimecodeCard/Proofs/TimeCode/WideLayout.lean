import Mathlib.Tactic
import TimecodeCard.Card.Operation

/-!
# The 64-bit layout loses nothing

The 64-bit layout has a nibble of the packed time code in the lower half of each byte, and user bits
in the upper half. Spreading and gathering go through the eight nibbles one by one, so each bit comes
from one of eight pieces. `TimeCode.getLsbD_toWide` and `TimeCode.getLsbD_ofWide` find the piece, and
say for all bits at once where a bit comes from; everything else follows by comparing bits.

The main result, `TimeCode.wide_layout_lossless`, is that the layout is exact both ways, up to the
user bits, and that a request in it is the request of the packed time code, whatever the user bits
are. The words that cancel a request or ask for the real time keep their meaning, and no other word
takes it on.
-/

namespace TimecodeCard

variable {i k : Nat}

/-! ## Joining pieces -/

lemma getLsbD_foldl_or {width : Nat} (piece : Nat → BitVec width) (list : List Nat)
    (start : BitVec width) :
    (list.foldl (fun w i => w ||| piece i) start).getLsbD k
      = (start.getLsbD k || list.any fun i => (piece i).getLsbD k) := by
  induction list generalizing start with
  | nil => simp
  | cons i rest ih => rw [List.foldl_cons, ih, BitVec.getLsbD_or, List.any_cons, Bool.or_assoc]

/-- Where only one piece can have a bit, the bit is that of the piece. -/
lemma any_range_eq {n : Nat} {p : Nat → Bool} (hi : i < n) (honly : ∀ j, p j = true → j = i) :
    (List.range n).any p = p i := by
  rw [Bool.eq_iff_iff, List.any_eq_true]
  constructor
  · rintro ⟨j, -, hj⟩
    exact honly j hj ▸ hj
  · intro hp
    exact ⟨i, List.mem_range.mpr hi, hp⟩

namespace TimeCode

variable {t : TimeCode} {w : BitVec 64}

/-! ## Bits of the layout -/

lemma getLsbD_spreadNibble (t : TimeCode) (hk : k < 64) :
    (t.spreadNibble i).getLsbD k
      = (decide (8 * i ≤ k ∧ k < 8 * i + 4) && t.code.getLsbD (4 * i + (k - 8 * i))) := by
  rw [spreadNibble, BitVec.getLsbD_shiftLeft, BitVec.getLsbD_setWidth, BitVec.getLsbD_extractLsb']
  grind

lemma getLsbD_gatherNibble (w : BitVec 64) (hk : k < 32) :
    (gatherNibble w i).getLsbD k
      = (decide (4 * i ≤ k ∧ k < 4 * i + 4) && w.getLsbD (8 * i + (k - 4 * i))) := by
  rw [gatherNibble, BitVec.getLsbD_shiftLeft, BitVec.getLsbD_setWidth, BitVec.getLsbD_extractLsb']
  grind

/-- The lower half of each byte is a nibble of the time code, and the upper half is clear. -/
lemma getLsbD_toWide (t : TimeCode) (hk : k < 64) :
    t.toWide.getLsbD k = (decide (k % 8 < 4) && t.code.getLsbD (4 * (k / 8) + k % 8)) := by
  have honly : ∀ j, (t.spreadNibble j).getLsbD k = true → j = k / 8 := by
    intro j hj
    rw [getLsbD_spreadNibble t hk, Bool.and_eq_true, decide_eq_true_eq] at hj
    omega
  rw [toWide, getLsbD_foldl_or, any_range_eq (by omega) honly, getLsbD_spreadNibble t hk]
  have hoffset : k - 8 * (k / 8) = k % 8 := by omega
  have hhalf : (8 * (k / 8) ≤ k ∧ k < 8 * (k / 8) + 4) ↔ k % 8 < 4 := by omega
  simp only [hoffset, hhalf, BitVec.ofNat_eq_ofNat, BitVec.getLsbD_zero, Bool.false_or]

/-- Each nibble of the time code is the lower half of a byte. -/
lemma getLsbD_ofWide (w : BitVec 64) (hk : k < 32) :
    (ofWide w).code.getLsbD k = w.getLsbD (8 * (k / 4) + k % 4) := by
  have honly : ∀ j, (gatherNibble w j).getLsbD k = true → j = k / 4 := by
    intro j hj
    rw [getLsbD_gatherNibble w hk, Bool.and_eq_true, decide_eq_true_eq] at hj
    omega
  rw [ofWide, getLsbD_foldl_or, any_range_eq (by omega) honly, getLsbD_gatherNibble w hk]
  have hoffset : k - 4 * (k / 4) = k % 4 := by omega
  have hnibble : 4 * (k / 4) ≤ k ∧ k < 4 * (k / 4) + 4 := by omega
  simp only [hoffset, decide_eq_true hnibble, BitVec.ofNat_eq_ofNat, BitVec.getLsbD_zero,
    Bool.false_or, Bool.true_and]

/-- The lower half of each byte. -/
def nibbleBits : BitVec 64 := 0x0f0f0f0f0f0f0f0f

/-- The upper half of each byte. -/
def userBits : BitVec 64 := 0xf0f0f0f0f0f0f0f0

lemma getLsbD_nibbleBits : ∀ k < 64, nibbleBits.getLsbD k = decide (k % 8 < 4) := by
  decide

lemma getLsbD_userBits : ∀ k < 64, userBits.getLsbD k = decide (4 ≤ k % 8) := by
  decide

/-! ## Both directions -/

/-- **Round trip.** The time code is read back from its layout. -/
theorem ofWide_toWide (t : TimeCode) : ofWide t.toWide = t := by
  suffices hcode : (ofWide t.toWide).code = t.code from congrArg mk hcode
  refine BitVec.eq_of_getLsbD_eq fun k hk => ?_
  have hhalf : (8 * (k / 4) + k % 4) % 8 < 4 := by omega
  have hbit : 4 * ((8 * (k / 4) + k % 4) / 8) + (8 * (k / 4) + k % 4) % 8 = k := by omega
  rw [getLsbD_ofWide _ hk, getLsbD_toWide t (by omega), decide_eq_true hhalf, hbit, Bool.true_and]

/-- **Round trip.** The layout is built again from the time code in it, without the user bits. -/
theorem toWide_ofWide (w : BitVec 64) : (ofWide w).toWide = w &&& nibbleBits := by
  refine BitVec.eq_of_getLsbD_eq fun k hk => ?_
  rw [getLsbD_toWide _ hk, BitVec.getLsbD_and, getLsbD_nibbleBits k hk]
  by_cases hhalf : k % 8 < 4
  · have hbit : 8 * ((4 * (k / 8) + k % 8) / 4) + (4 * (k / 8) + k % 8) % 4 = k := by omega
    rw [getLsbD_ofWide w (by omega), hbit, Bool.and_comm]
  · rw [decide_eq_false hhalf, Bool.false_and, Bool.and_false]

lemma toWide_and_userBits (t : TimeCode) : t.toWide &&& userBits = 0 := by
  refine BitVec.eq_of_getLsbD_eq fun k hk => ?_
  rw [BitVec.getLsbD_and, getLsbD_toWide t hk, getLsbD_userBits k hk]
  by_cases hhalf : k % 8 < 4
  · simp [Nat.not_le.mpr hhalf]
  · simp [hhalf]

lemma ofWide_eq_iff : ofWide w = t ↔ w &&& nibbleBits = t.toWide := by
  rw [← toWide_ofWide]
  constructor
  · rintro rfl
    rfl
  · intro h
    rw [← ofWide_toWide (ofWide w), h, ofWide_toWide]

lemma ofWide_toWide_or (t : TimeCode) (user : BitVec 64) :
    ofWide (t.toWide ||| user &&& userBits) = t := by
  rw [ofWide_eq_iff]
  refine BitVec.eq_of_getLsbD_eq fun k hk => ?_
  rw [BitVec.getLsbD_and, BitVec.getLsbD_or, BitVec.getLsbD_and, getLsbD_toWide t hk,
    getLsbD_userBits k hk, getLsbD_nibbleBits k hk]
  by_cases hhalf : k % 8 < 4
  · simp [hhalf, Nat.not_le.mpr hhalf]
  · simp [hhalf]

/-! ## Words with a meaning of their own -/

lemma isAbsent_ofWide_iff : (ofWide w).IsAbsent ↔ w &&& nibbleBits = nibbleBits := by
  have hlayout : absent.toWide = nibbleBits := by decide
  rw [IsAbsent, ofWide_eq_iff, hlayout]

lemma toWide_and (a b : BitVec 32) : toWide ⟨a &&& b⟩ = toWide ⟨a⟩ &&& toWide ⟨b⟩ := by
  refine BitVec.eq_of_getLsbD_eq fun k hk => ?_
  simp only [BitVec.getLsbD_and, getLsbD_toWide _ hk]
  cases decide (k % 8 < 4) <;> simp

lemma isWallClock_ofWide_iff :
    (ofWide w).IsWallClock ↔ w &&& wallClock.toWide = wallClock.toWide := by
  have hinjective : Function.Injective toWide := Function.LeftInverse.injective ofWide_toWide
  have hnibbles : nibbleBits &&& wallClock.toWide = wallClock.toWide := by decide
  have hlayout : toWide ⟨(ofWide w).code &&& wallClock.code⟩ = w &&& wallClock.toWide := by
    rw [toWide_and, toWide_ofWide, BitVec.and_assoc, hnibbles]
  rw [IsWallClock, ← hlayout, hinjective.eq_iff, mk.injEq]

/-! ## Main result -/

/-- **The 64-bit layout is lossless.** A time code is read back from its layout, in which the user
bits are clear. A word is built again from the time code in it, but for its user bits; it cancels a
request or asks for the real time exactly if its nibbles say so. A request with the layout of a time
code and any user bits is the request of the time code, on any card at any time. -/
theorem wide_layout_lossless {δ : Type} [Device δ] :
    (∀ t : TimeCode, ofWide t.toWide = t ∧ t.toWide &&& 0xf0f0f0f0f0f0f0f0 = 0)
      ∧ (∀ w : BitVec 64, (ofWide w).toWide = w &&& 0x0f0f0f0f0f0f0f0f
        ∧ ((ofWide w).IsAbsent ↔ w &&& 0x0f0f0f0f0f0f0f0f = 0x0f0f0f0f0f0f0f0f)
        ∧ ((ofWide w).IsWallClock ↔ w &&& 0x030f070f070f030f = 0x030f070f070f030f))
      ∧ ∀ (c : Card δ) (now : Nat) (t : TimeCode) (user : BitVec 64) (target : Int),
        c.requestWide (t.toWide ||| user &&& 0xf0f0f0f0f0f0f0f0) target
            = c.request { timeCode := t, target }
          ∧ c.perform now (.requestWide (t.toWide ||| user &&& 0xf0f0f0f0f0f0f0f0) target)
            = c.perform now (.request { timeCode := t, target }) := by
  have hwallClock : wallClock.toWide = 0x030f070f070f030f := by decide
  refine ⟨fun t => ⟨ofWide_toWide t, toWide_and_userBits t⟩,
    fun w => ⟨toWide_ofWide w, isAbsent_ofWide_iff, ?_⟩, fun c now t user target => ?_⟩
  · rw [isWallClock_ofWide_iff, hwallClock]
  · have hrequest : c.requestWide (t.toWide ||| user &&& userBits) target
        = c.request { timeCode := t, target } := by
      rw [Card.requestWide, ofWide_toWide_or]
    refine ⟨hrequest, ?_⟩
    show Except.ok (Card.settle ((c.requestWide (t.toWide ||| user &&& userBits) target).map _)) = _
    rw [hrequest]
    rfl

end TimeCode

end TimecodeCard
