import Mathlib.Tactic
import TimecodeCard.Proofs.Card.Coherence
import TimecodeCard.Proofs.Ltc.Handover

/-!
# An armed request in hardware

While the time code output is armed, hardware is to find the scheduled start in quadlets 0 and 1
of the control bank (`Ltc.Scheduled.StandsIn`). Serving an interrupt puts it there, and the bits
which are changed in place are in quadlet 2. A write of the whole bank, however, takes both
quadlets from the cache, which never has the request (`Tco.Module.Overwritten`).

So there are three results. `Card.ReachableBy.armed_request_stands`: the request stands in
hardware on every card on which the bank was not written as a whole while the output was armed.
`Card.Reachable.armed_request_stands_or_overwritten`: otherwise nothing of it is left.
`Card.Reachable.perform_rewrite_overwrites`: every operation which writes the whole bank has that
effect, and the output stays armed all the same.
-/

namespace TimecodeCard

open Tco.Access (held? writable)

variable {δ : Type}

/-! ## The start in hardware -/

namespace Ltc

/-- Whether the control bank holds the start: the time code in quadlet 0, and in quadlet 1 the set
request with the offset, of which hardware has 14 bits. -/
structure Scheduled.StandsIn (s : Scheduled) (d : Recorded δ) : Prop where
  held_code : held? d 0 = some s.timeCode.code
  held_request : ∃ q1, held? d 1 = some q1 ∧ q1.getLsbD 8 = true
    ∧ ((q1.splitSlice 16).toNat : Int) = s.offset % 0x4000

lemma Scheduled.StandsIn.congr {s : Scheduled} {d d' : Recorded δ} (h : s.StandsIn d)
    (hq0 : held? d' 0 = held? d 0) (hq1 : held? d' 1 = held? d 1) : s.StandsIn d' :=
  ⟨hq0.trans h.held_code, hq1 ▸ h.held_request⟩

variable [Device δ]

/-- The run bit is written last, to quadlet 2, so it leaves what was written before. -/
lemma Scheduled.standsIn_arm {s : Scheduled} (hcode : writable s.timeCode.code = s.timeCode.code)
    (t : Target (Recorded δ)) : s.StandsIn (Output.arm s t).device := by
  have hrun : ∀ n, n ≠ 2 → held? (Output.arm s t).device n
      = held? (Tco.Access.writeTimeCode t.device s.timeCode (Word.asSigned32 s.offset)
        t.cache.q1) n :=
    fun n hn => Tco.Access.held?_write_of_ne hn _
  constructor
  · rw [hrun 0 (by decide), Tco.Access.writeTimeCode, Tco.Access.held?_write_of_ne (by decide),
      Tco.Access.held?_write_self, hcode]
  · refine ⟨writable (Tco.Access.withRequest t.cache.q1 s.offset), ?_, ?_, ?_⟩
    · rw [hrun 1 (by decide), Tco.Access.writeTimeCode, Tco.Access.held?_write_self,
        Tco.Access.withRequest_asSigned32]
    · exact Tco.Access.request_withRequest _ _
    · exact Tco.Access.offset_decode_withRequest _ _

lemma Output.period_standsIn {o : Output} {t : Target (Recorded δ)} {m : Moment}
    {p : OutputPeriod (Recorded δ)} (h : o.period t m = .ok p) (harmed : p.output.armed = true) :
    ∃ s, p.output.last = some s ∧ s.StandsIn p.target.device := by
  rcases Output.period_cases h with ⟨-, rfl⟩ | ⟨r, s, -, hschedule, rfl⟩
  · exact nomatch harmed
  · have hvalid := timeCode_isValid_of_schedule? hschedule
    exact ⟨s, rfl, Scheduled.standsIn_arm hvalid.writable_code _⟩

end Ltc

/-! ## Steps of the module -/

namespace Tco.Module

/-- Whether quadlets 0 and 1 in hardware are those of the cache, without any request. -/
structure Overwritten (m : Module) (d : Recorded δ) : Prop where
  held_q0 : held? d 0 = some 0
  held_q1 : held? d 1 = some (writable m.cache.q1)

/-- Whether an armed output has its last start in hardware, or has lost it where that may
happen. -/
def HoldsRequest (lossy : Prop) (x : Module × Recorded δ) : Prop :=
  x.1.output.armed = true →
    (∃ s, x.1.output.last = some s ∧ s.StandsIn x.2) ∨ lossy ∧ x.1.Overwritten x.2

variable {lossy : Prop}

/-- What changes quadlet 2 only, or a request which still waits, changes nothing about it. -/
lemma HoldsRequest.congr {m m' : Module} {d d' : Recorded δ} (h : HoldsRequest lossy (m, d))
    (harmed : m'.output.armed = m.output.armed) (hlast : m'.output.last = m.output.last)
    (hcache : m'.cache.q1 = m.cache.q1) (hq0 : held? d' 0 = held? d 0)
    (hq1 : held? d' 1 = held? d 1) : HoldsRequest lossy (m', d') := by
  intro h'
  rcases h (harmed ▸ h') with ⟨s, hs, hstands⟩ | ⟨hlossy, hover⟩
  · exact .inl ⟨s, hlast.trans hs, hstands.congr hq0 hq1⟩
  · exact .inr ⟨hlossy, hq0.trans hover.held_q0, by rw [hq1, hcache, hover.held_q1]⟩

variable [Device δ]

lemma overwritten_restore {s : Saved} (hcache : s.cache = s.config.encode) (m : Module)
    (d : Recorded δ) : (m.restore d s).1.Overwritten (m.restore d s).2 := by
  have hq0 : s.cache.q0 = 0 := by rw [hcache, Config.encode]
  constructor
  · have hheld := Access.held?_writeBank (r := d) s.cache (n := 0) (by decide)
    rw [Bank.get, hq0] at hheld
    exact hheld
  · exact Access.held?_writeBank s.cache (by decide)

/-- **Step.** Each step keeps the request of an armed output in hardware, unless it writes the
whole bank while the output is armed. -/
theorem StepBy.holdsRequest {allowed : Module → Demand → Prop} {x y : Module × Recorded δ}
    (hrewrite : ∀ m s, allowed m (.rewrite s) → m.output.armed = true →
      lossy ∧ s.cache = s.config.encode)
    (hstep : StepBy allowed x y) (h : HoldsRequest lossy x) : HoldsRequest lossy y := by
  cases hstep with
  | quiet _ hcache houtput hheld =>
      exact h.congr (by rw [houtput]) (by rw [houtput]) (by rw [hcache]) (hheld 0) (hheld 1)
  | request d _ => exact h.congr rfl rfl rfl rfl rfl
  | followCard m d card =>
      unfold Module.followCard
      simp only
      split
      · exact h.congr rfl rfl rfl (Access.held?_write_of_ne (by decide) _)
          (Access.held?_write_of_ne (by decide) _)
      · exact h
  | serve hperiod => exact fun harmed => .inl (Ltc.Output.period_standsIn hperiod harmed)
  | terminate m d => exact fun harmed => nomatch harmed
  | rewrite d hallowed =>
      intro harmed
      obtain ⟨hlossy, hcache⟩ := hrewrite _ _ hallowed harmed
      exact .inr ⟨hlossy, overwritten_restore hcache _ d⟩

end Tco.Module

/-! ## Reachable cards -/

namespace Card

variable {model : CardModel} {saves : List SavedCard} {m : Tco.Module} {now : Nat}
  {op : Operation}

/-- Whether the operation writes the whole control bank only while the output is not armed. -/
def SparesArmed {δ : Type} (c : Card δ) (_now : Nat) (op : Operation) : Prop :=
  ∀ m s, c.module = some m → c.demand? op = some (.rewrite s) → m.output.armed = false

variable [Device δ] {c c' : Card (Recorded δ)}

/-- **An armed request stands in hardware.** On every card which is reachable without a write of
the whole control bank while the output is armed, an armed output has its last start in the
control bank. -/
theorem ReachableBy.armed_request_stands (h : ReachableBy SparesArmed model c)
    (hmodule : c.module = some m) (harmed : m.output.armed = true) :
    ∃ s, m.output.last = some s ∧ s.StandsIn c.device := by
  have hstep : ∀ x y : Tco.Module × Recorded δ,
      Tco.Module.StepBy (fun m demand => ∀ s, demand = .rewrite s → m.output.armed = false) x y →
        Tco.Module.HoldsRequest False x → Tco.Module.HoldsRequest False y := by
    intro x y hstep
    refine hstep.holdsRequest fun m s hallowed harmed => ?_
    exact absurd harmed (Bool.not_eq_true _ |>.mpr (hallowed s rfl))
  have hholds := h.module_invariant (fun _ hstart => nomatch hstart) (by
    intro c now op m x hspares hm hx s hs
    exact hspares m s hm (hx.trans (congrArg some hs))) hstep
  rcases hholds m hmodule harmed with hstands | ⟨hlossy, -⟩
  · exact hstands
  · exact hlossy.elim

/-- A card on which a parameter was set before the request was written, and the engine started
after. -/
theorem ReachableBy.armed_request_stands_running :
    ∃ (c : Card (Recorded Scripted)) (m : Tco.Module) (s : Ltc.Scheduled),
      ReachableBy SparesArmed .aio c ∧ c.module = some m ∧ m.output.armed = true
        ∧ m.output.last = some s ∧ s.StandsIn c.device := by
  have hattached : ReachableBy SparesArmed .aio
      (Card.attach .aio (⟨⟨[0, 8, 0, 0, 0, 0, 1, 8]⟩, [], []⟩ : Recorded Scripted)) :=
    .attach _
  have hset := hattached.perform
    (show SparesArmed _ 0 (.setParam (.choose .pull 1)) from
      fun m _ hm _ => by obtain rfl := Option.some.inj hm; rfl)
    (show Card.perform _ 0 _ = .ok _ from rfl)
  have hrequested := hset.perform
    (show SparesArmed _ 0 (.request ⟨⟨0⟩, Ltc.Request.atOnce⟩) from
      fun _ _ _ hdemand => nomatch hdemand)
    (show Card.perform _ 0 _ = .ok _ from rfl)
  have hserved := hrequested.perform
    (show SparesArmed _ 0 .interrupt from fun _ _ _ hdemand => nomatch hdemand)
    (show Card.perform _ 0 _ = .ok _ from rfl)
  have hstarted := hserved.perform
    (show SparesArmed _ 0 .start from fun _ _ _ hdemand => nomatch hdemand)
    (show Card.perform _ 0 _ = .ok _ from rfl)
  obtain ⟨s, hlast, hstands⟩ := armed_request_stands hstarted rfl rfl
  exact ⟨_, _, s, hstarted, rfl, rfl, hlast, hstands⟩

/-- What a reachable card saved are encodings, and so is the cache of its module; an armed output
has its request in hardware or overwritten. -/
lemma Reachable.holdsRequest (h : Reachable model saves c) :
    (∀ m, c.module = some m → Tco.Module.HoldsRequest True (m, c.device))
      ∧ ∀ s ∈ saves.filterMap SavedCard.module, s.cache = s.config.encode := by
  obtain ⟨hholds, hsaves⟩ := h.module_invariant
    (I := fun x => Tco.Module.Coherent x ∧ Tco.Module.HoldsRequest True x)
    (S := fun s => s.cache = s.config.encode)
    (fun d => ⟨Tco.Module.coherent_start d, fun hstart => nomatch hstart⟩)
    (fun _ hx => hx.1.cache_eq) fun _ _ _ hsaves hstep hx =>
      ⟨hstep.coherent hsaves hx.1,
        hstep.holdsRequest (fun _ _ hfrom _ => ⟨trivial, hfrom.elim (hsaves _) id⟩) hx.2⟩
  exact ⟨fun m hm => (hholds m hm).2, hsaves⟩

/-- On every reachable card with an armed output, the last start stands in hardware or nothing of
it does. -/
theorem Reachable.armed_request_stands_or_overwritten (h : Reachable model saves c)
    (hmodule : c.module = some m) (harmed : m.output.armed = true) :
    (∃ s, m.output.last = some s ∧ s.StandsIn c.device) ∨ m.Overwritten c.device :=
  (h.holdsRequest.1 m hmodule harmed).imp id And.right

/-! ## The operations which overwrite -/

/-- An operation which brings in a bank writes it, after whatever else it writes. -/
lemma perform_rewrite {s : Tco.Saved} {report : Report} (hmodule : c.module = some m)
    (hdemand : c.demand? op = some (.rewrite s)) (h : c.perform now op = .ok (c', report)) :
    ∃ d, c'.module = some (m.restore d s).1 ∧ c'.device = (m.restore d s).2 := by
  cases op with
  | setParam p =>
      simp only [demand?, demandOfParam?, hmodule, Option.bind_some] at hdemand
      split at hdemand
      · cases hdemand
      · next config happly =>
          obtain ⟨hchanged, hdemand⟩ := Option.ite_none_left_eq_some.mp hdemand
          obtain rfl := Tco.Module.Demand.rewrite.inj (Option.some.inj hdemand)
          have hset : c.setParam p = .ok (true, { c with
              module := some (m.restore c.device ⟨config, config.encode⟩).1
              device := (m.restore c.device ⟨config, config.encode⟩).2 }) := by
            simp only [setParam, hmodule, Tco.Module.setParam, happly, Tco.Module.configure,
              if_neg hchanged]
            rfl
          rw [perform, hset] at h
          obtain ⟨rfl, -⟩ := Prod.mk.inj (Except.ok.inj h)
          exact ⟨c.device, rfl, rfl⟩
  | restore t =>
      obtain ⟨s, ht, hs⟩ := Option.map_eq_some_iff.mp hdemand
      obtain rfl := Tco.Module.Demand.rewrite.inj hs
      obtain ⟨rfl, -⟩ := Prod.mk.inj (Except.ok.inj h)
      refine ⟨t.control.write c.device, ?_, ?_⟩ <;>
        simp only [Card.restore, writeControl, resize, hmodule, ht]
  | _ => cases hdemand

/-- **The whole bank takes the request with it.** After any operation which writes the whole
control bank, the output is what it was, armed or not, and quadlets 0 and 1 in hardware are those
of the cache. -/
theorem Reachable.perform_rewrite_overwrites {s : Tco.Saved} {report : Report}
    (h : Reachable model saves c) (hmodule : c.module = some m)
    (hrestores : op.RestoresFrom saves) (hdemand : c.demand? op = some (.rewrite s))
    (hperform : c.perform now op = .ok (c', report)) :
    ∃ m', c'.module = some m' ∧ m'.output = m.output ∧ m'.Overwritten c'.device := by
  have hcache : s.cache = s.config.encode :=
    (demand_from hrestores hdemand).elim (h.holdsRequest.2 s) id
  obtain ⟨d, hmodule', hdevice⟩ := perform_rewrite hmodule hdemand hperform
  refine ⟨_, hmodule', rfl, ?_⟩
  rw [hdevice]
  exact Tco.Module.overwritten_restore hcache m d

/-- A card on which a parameter was set while the output was armed: the request it waits for is
gone. -/
theorem Reachable.armed_request_overwritten :
    ∃ (c : Card (Recorded Scripted)) (m : Tco.Module) (s : Ltc.Scheduled),
      Reachable .aio [] c ∧ c.module = some m ∧ m.output.armed = true
        ∧ m.output.last = some s ∧ ¬ s.StandsIn c.device := by
  have hattached : Reachable .aio []
      (Card.attach .aio (⟨⟨[0, 8, 0, 0, 0, 0, 1, 8]⟩, [], []⟩ : Recorded Scripted)) :=
    .attach _
  have hrequested := hattached.perform
    (show Operation.RestoresFrom [] (.request ⟨⟨0⟩, Ltc.Request.atOnce⟩) from trivial)
    (show Card.perform _ 0 _ = .ok _ from rfl)
  have hserved := hrequested.perform
    (show Operation.RestoresFrom [] .interrupt from trivial)
    (show Card.perform _ 0 _ = .ok _ from rfl)
  have hset := hserved.perform
    (show Operation.RestoresFrom [] (.setParam (.choose .pull 1)) from trivial)
    (show Card.perform _ 0 _ = .ok _ from rfl)
  refine ⟨_, _, _, hset, rfl, rfl, rfl, ?_⟩
  intro hstands
  obtain ⟨q1, hq1, hrequest, -⟩ := hstands.held_request
  obtain rfl := Option.some.inj hq1
  exact absurd hrequest (by decide)

end Card

end TimecodeCard
