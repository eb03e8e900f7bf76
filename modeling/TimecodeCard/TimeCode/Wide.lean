import TimecodeCard.TimeCode.Basic

/-!
# Time code in the 64-bit layout

Clients exchange time code in a word of 64 bits, made of eight bytes: the lower half of each
byte carries one nibble of the packed time code, and the upper half carries user bits.
`TimeCode.toWide` spreads the nibbles with the user bits clear, `TimeCode.ofWide` gathers them
and drops the user bits.
-/

namespace TimecodeCard.TimeCode

/-- The nibble `i` of the packed word, at its place in the 64-bit layout. -/
def spreadNibble (t : TimeCode) (i : Nat) : BitVec 64 :=
  (t.code.extractLsb' (4 * i) 4).setWidth 64 <<< (8 * i)

/-- The lower half of byte `i` of the 64-bit layout, at its place in the packed word. -/
def gatherNibble (w : BitVec 64) (i : Nat) : BitVec 32 :=
  (w.extractLsb' (8 * i) 4).setWidth 32 <<< (4 * i)

/-- The 64-bit layout of the time code, with clear user bits. -/
def toWide (t : TimeCode) : BitVec 64 :=
  (List.range 8).foldl (fun w i => w ||| t.spreadNibble i) 0

/-- The time code in the 64-bit layout, whatever its user bits are. -/
def ofWide (w : BitVec 64) : TimeCode where
  code := (List.range 8).foldl (fun code i => code ||| gatherNibble w i) 0

end TimecodeCard.TimeCode
