import Mathlib.Tactic
import TimecodeCard.Proofs.Card.RegisterCodec
import TimecodeCard.Proofs.Simulation.Registers

/-!
# Registers of the card in both directions, and the pointer through them

The control register and both status registers are written by one side and read by the other.
`Simulator.card_registers_exact` collects what becomes of them on the way: what is read of what was
written, what is written of what was read, and the pointer which the card finds in the registers.

Three things are lost, all of them on purpose: a latency beyond the largest code, the bits which no
field has, and the four lowest bits of the pointer together with its turns. A word that does not
settle the rate of the clock is the one case where parameters known before show up in what is
written, or where one of two speeds is dropped, and the statement says that there is no other.
-/

namespace TimecodeCard.Simulator

/-- **The registers of the card are exact.** Control parameters are read back over any others, with
the latency capped, from lists of at least one quadlet. A control word is built again, but for the
bits which no field has, exactly if it settles the rate; two status words always are. A status is
read back exactly if its pointer fits ten bits. The card finds the pointer of the registers modulo
its span and rounded down to 16 frames, wherever it stands. -/
theorem card_registers_exact :
    (∀ (before c : Control) (rest : List Quadlet),
        before.decodeList (c.encode :: rest) = .ok { c with latency := min c.latency maxLatency })
      ∧ (∀ (before : Control) (q : Quadlet) (rest : List Quadlet),
        (before.decodeList (q :: rest)).map Control.encode = .ok (q &&& 0x800001ef)
          ↔ Control.SettlesRate q)
      ∧ (∀ (q0 q2 : Quadlet) (rest : List Quadlet),
        (CardStatus.decodeList (q0 :: q2 :: rest)).map CardStatus.encode
          = .ok (q0 &&& 0x0800ffc1, q2 &&& 0x00000008))
      ∧ (∀ (s : CardStatus) (rest : List Quadlet),
        CardStatus.decodeList (s.encode.1 :: s.encode.2 :: rest) = .ok s
          ↔ s.bufferPointer < 0x400)
      ∧ ∀ d : Recorded Simulator,
        (CardStatus.read d).1.hardwarePointer = d.device.pointer % pointerSpan / 16 * 16 := by
  refine ⟨?_, ?_, ?_, ?_, ?_⟩
  · intro before c rest
    rw [Control.decodeList, Control.decode_encode]
  · intro before q rest
    rw [Control.decodeList, Except.map, Except.ok.injEq, Control.encode_decode_iff]
  · intro q0 q2 rest
    rw [CardStatus.decodeList, Except.map, CardStatus.encode_decode]
  · intro s rest
    rw [CardStatus.decodeList, Except.ok.injEq, CardStatus.decode_encode_iff]
  · intro d
    rw [(read_cardStatus d).1, hardwarePointer_cardStatus_eq]

end TimecodeCard.Simulator
