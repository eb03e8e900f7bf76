import Mathlib.Tactic
import TimecodeCard.Proofs.Card.Effects
import TimecodeCard.Proofs.Tco.Held

/-!
# What operations do to the time code module

An operation on the card comes to a few steps of its time code module (`Tco.Module.StepBy`): the
control bank is written, the base rate follows the card, an interrupt is served, and so on.
Everything else leaves configuration, cache, output and control bank as they are, which is one
step of its own (`StepBy.quiet`). Only a few steps take something from a client
(`Tco.Module.Demand`), and which of them an operation comes to is told by `Card.demand?`.

`Card.Moves.perform` says this of each operation. Two invariants are what it is for: a property of
the module and the device which holds at the start and is kept by every step holds of every
reachable card, together with a property of what is saved (`Card.Reachable.module_invariant`), or
with a condition on what clients bring in (`Card.ReachableBy.module_invariant`).
-/

namespace TimecodeCard

open Relation (ReflTransGen)

variable {δ : Type} [Device δ]

/-! ## Steps of the module -/

namespace Tco.Module

/-- What the module shares with its output. -/
def target (m : Module) (d : Recorded δ) : Ltc.Target (Recorded δ) :=
  { config := m.config, cache := m.cache, device := d }

/-- The module after its output has changed, with what they share. -/
def withTarget (m : Module) (o : Ltc.Output) (t : Ltc.Target (Recorded δ)) : Module :=
  { m with output := o, config := t.config, cache := t.cache }

/-- What a client brings into the module. -/
inductive Demand
  /-- A request waits for the next interrupt. -/
  | request (r : Ltc.Request)
  /-- The whole control bank is written, along with a configuration. -/
  | rewrite (s : Saved)

/-- A step of the module and the device, where the state of the module allows what a client
brings in. -/
inductive StepBy (allowed : Module → Demand → Prop) :
    Module × Recorded δ → Module × Recorded δ → Prop
  /-- Nothing that concerns the control bank has changed. -/
  | quiet {m m' : Module} {d d' : Recorded δ} (hconfig : m'.config = m.config)
      (hcache : m'.cache = m.cache) (houtput : m'.output = m.output)
      (hheld : ∀ n, Access.held? d' n = Access.held? d n) : StepBy allowed (m, d) (m', d')
  | request {m : Module} {r : Ltc.Request} (d : Recorded δ) (h : allowed m (.request r)) :
      StepBy allowed (m, d) (m.request r, d)
  | followCard (m : Module) (d : Recorded δ) (card : BaseFrequency) :
      StepBy allowed (m, d) (m.followCard d card).2
  | serve {m : Module} {d : Recorded δ} {moment : Ltc.Moment}
      {p : Ltc.OutputPeriod (Recorded δ)} (h : m.output.period (m.target d) moment = .ok p) :
      StepBy allowed (m, d) (m.withTarget p.output p.target, p.target.device)
  | terminate (m : Module) (d : Recorded δ) : StepBy allowed (m, d) (m.terminate d)
  | rewrite {m : Module} {s : Saved} (d : Recorded δ) (h : allowed m (.rewrite s)) :
      StepBy allowed (m, d) (m.restore d s)

/-- Whether a control bank which is written, if any, is the encoding of its configuration or was
saved with it. -/
def Demand.From (saves : List Saved) : Demand → Prop
  | .request _ => True
  | .rewrite s => s ∈ saves ∨ s.cache = s.config.encode

/-- A step of the module and the device, where a restore takes something saved. -/
abbrev Step (saves : List Saved) : Module × Recorded δ → Module × Recorded δ → Prop :=
  StepBy fun _ x => x.From saves

lemma invariant_of_steps {I : Module × Recorded δ → Prop} {allowed : Module → Demand → Prop}
    (hstep : ∀ x y, StepBy allowed x y → I x → I y) {x y : Module × Recorded δ}
    (h : ReflTransGen (StepBy allowed) x y) (hx : I x) : I y := by
  induction h with
  | refl => exact hx
  | tail _ hlast ih => exact hstep _ _ hlast ih

end Tco.Module

/-! ## Steps of the card -/

namespace Card

variable {model : CardModel} {allowed : Tco.Module → Tco.Module.Demand → Prop}
  {c c' c'' : Card (Recorded δ)} {m m' : Tco.Module} {now : Nat}

/-- What setting the parameter brings into the module: a bank, unless the parameter is refused
or has its value already. -/
def demandOfParam? {δ : Type} (c : Card δ) (p : Tco.Param) : Option Tco.Module.Demand :=
  c.module.bind fun m =>
    match p.apply m.config c.rate.base with
    | .error _ => none
    | .ok config =>
      if config = m.config then none else some (.rewrite { config, cache := config.encode })

/-- What the operation brings into the module of the card. -/
def demand? {δ : Type} (c : Card δ) : Operation → Option Tco.Module.Demand
  | .request r => some (.request r)
  | .requestWide code target => some (.request { timeCode := .ofWide code, target })
  | .setParam p => c.demandOfParam? p
  | .restore s => s.module.map .rewrite
  | _ => none

/-- Whether the module of the card moves by steps, if the card has one. -/
inductive Moves (allowed : Tco.Module → Tco.Module.Demand → Prop)
    (c c' : Card (Recorded δ)) : Prop
  | absent (h : c.module = none) (h' : c'.module = none)
  | steps {m m' : Tco.Module} (h : c.module = some m) (h' : c'.module = some m')
      (hsteps : ReflTransGen (Tco.Module.StepBy allowed) (m, c.device) (m', c'.device))

namespace Moves

lemma single (h : c.module = some m) (h' : c'.module = some m')
    (hstep : Tco.Module.StepBy allowed (m, c.device) (m', c'.device)) : Moves allowed c c' :=
  .steps h h' (.single hstep)

lemma still (hmodule : c'.module = c.module)
    (hheld : ∀ n, Tco.Access.held? c'.device n = Tco.Access.held? c.device n) :
    Moves allowed c c' := by
  cases h : c.module with
  | none => exact .absent h (hmodule.trans h)
  | some m => exact .single h (hmodule.trans h) (.quiet rfl rfl rfl hheld)

lemma refl (c : Card (Recorded δ)) : Moves allowed c c :=
  .still rfl fun _ => rfl

lemma trans (h : Moves allowed c c') (h' : Moves allowed c' c'') : Moves allowed c c'' := by
  cases h with
  | absent hnone hnone' =>
      cases h' with
      | absent _ hnone'' => exact .absent hnone hnone''
      | steps hsome _ _ => exact nomatch hnone'.symm.trans hsome
  | steps hsome hsome' hsteps =>
      cases h' with
      | absent hnone _ => exact nomatch hsome'.symm.trans hnone
      | steps hsome'' hlast hsteps' =>
          obtain rfl := Option.some.inj (hsome'.symm.trans hsome'')
          exact .steps hsome hlast (hsteps.trans hsteps')

lemma writeControl (c : Card (Recorded δ)) (control : Control) :
    Moves allowed c (c.writeControl control) :=
  .still rfl fun _ => Tco.Access.held?_control control

lemma rewritten (c : Card (Recorded δ)) (control : Control) :
    Moves allowed c (c.rewritten control) :=
  .still rfl fun _ => Tco.Access.held?_control control

lemma counted (c : Card (Recorded δ)) (position : Position) :
    Moves allowed c (c.counted position) := by
  refine .still rfl fun n => ?_
  rw [Card.counted, Tco.Access.held?_confirm, Tco.Access.held?_cardStatus]

/-- An interrupt of the audio period: the input is served first, which is quiet, and then the
output. -/
lemma period {d : Recorded δ} {frames periodSize speed : Nat} {p : Tco.ModulePeriod (Recorded δ)}
    (h : m.period d frames periodSize speed now = .ok p) :
    ReflTransGen (Tco.Module.StepBy allowed) (m, d) (p.module, p.device) := by
  obtain ⟨o, houtput, rfl⟩ := Tco.Module.period_cases h
  have hquiet : Tco.Module.StepBy allowed (m, d)
      ({ m with frames, input := (m.input.period d frames speed).1 },
        (m.input.period d frames speed).2.2) :=
    .quiet rfl rfl rfl fun _ => Tco.Access.held?_trackerPeriod _ _ _
  exact (ReflTransGen.single hquiet).tail (.serve houtput)

/-- A parameter which changes nothing is no rewrite. -/
lemma configure {p : Tco.Param} {config : Tco.Config} (hmodule : c.module = some m)
    (happly : p.apply m.config c.rate.base = .ok config)
    (hallowed : ∀ x, c.demandOfParam? p = some x → allowed m x) :
    Moves allowed c { c with
      module := some (m.configure c.device config).2.1
      device := (m.configure c.device config).2.2 } := by
  rcases m.configure_cases c.device config with ⟨-, heq⟩ | ⟨hother, heq⟩
  · rw [heq]
    exact .single hmodule rfl (.quiet rfl rfl rfl fun _ => rfl)
  · have hdemand : c.demandOfParam? p = some (.rewrite ⟨config, config.encode⟩) := by
      simp only [demandOfParam?, hmodule, Option.bind_some, happly, if_neg hother]
    rw [heq]
    exact .single hmodule rfl (.rewrite c.device (hallowed _ hdemand))

/-- **Effects are steps.** Whatever an operation comes to, the module moves by steps, if it allows
what the operation brings in. -/
lemma of_effect {op : Operation} {report : Report}
    (hallowed : ∀ m x, c.module = some m → c.demand? op = some x → allowed m x)
    (h : Effect c now op c' report) : Moves allowed c c' := by
  cases h with
  | refuse _ | skip _ | keepRate _ | pass _ => exact .refl c
  | ignore _ => exact .still rfl fun _ => Tco.Access.held?_cardStatus
  | count _ _ _ => exact counted c _
  | serve _ _ hmodule hperiod => exact (counted c _).trans (.steps hmodule rfl (period hperiod))
  | hear _ hmodule hboundary =>
      obtain ⟨window, rfl⟩ := Tco.Module.exists_of_boundary hboundary
      exact .single hmodule rfl (.quiet rfl rfl rfl fun _ => rfl)
  | poll hmodule =>
      exact .single hmodule rfl (.quiet rfl rfl rfl fun _ => Tco.Access.held?_readStatus)
  | start | stop | writeRate _ _ _ => exact writeControl c _
  | terminate =>
      exact terminate_keeps (.refl c)
        (fun m hmodule => .single hmodule rfl (.terminate m c.device))
        fun _ hd => hd.trans (writeControl _ _)
  | resize _ _ => exact .still rfl fun _ => Tco.Access.held?_control _
  | @followRate rate m _ _ hmodule =>
      exact (writeControl c _).trans (.single hmodule rfl (.followCard m _ rate.base))
  | configure hmodule happly => exact configure hmodule happly fun x hx => hallowed _ x hmodule hx
  | request hmodule | requestWide hmodule =>
      exact .single hmodule rfl (.request c.device (hallowed _ _ hmodule rfl))
  | reset _ => exact rewritten c _
  | @restore s m t hmodule hsaved =>
      have hdemand : c.demand? (.restore s) = some (.rewrite t) := congrArg (Option.map _) hsaved
      exact (rewritten c _).trans
        (.single hmodule rfl (.rewrite _ (hallowed m _ hmodule hdemand)))

/-- **Operations are steps.** Whatever is done to the card, its module moves by steps, if it
allows what the operation brings in. -/
theorem perform {op : Operation} {report : Report}
    (hallowed : ∀ m x, c.module = some m → c.demand? op = some x → allowed m x)
    (h : c.perform now op = .ok (c', report)) : Moves allowed c c' :=
  of_effect hallowed (perform_effect h)

end Moves

/-! ## Reachable cards -/

lemma attach_module (model : CardModel) (d : Recorded δ) {m : Tco.Module}
    (h : (attach model d).module = some m) :
    ∃ d' : Recorded δ, m = (Tco.Module.start d').1
      ∧ ∀ n, Tco.Access.held? (attach model d).device n
        = Tco.Access.held? (Tco.Module.start d').2 n := by
  unfold attach at h ⊢
  simp only at h ⊢
  split at h
  · next hpresent =>
      rw [if_pos hpresent]
      exact ⟨_, (Option.some.inj h).symm, fun _ => Tco.Access.held?_control _⟩
  · exact nomatch h

/-- A bank which an operation brings in was saved, or is the encoding of a configuration. -/
lemma demand_from {δ : Type} {c : Card δ} {saves : List SavedCard} {op : Operation}
    {x : Tco.Module.Demand} (hrestores : op.RestoresFrom saves) (h : c.demand? op = some x) :
    x.From (saves.filterMap SavedCard.module) := by
  cases op with
  | setParam p =>
      obtain ⟨m, -, h⟩ := Option.bind_eq_some_iff.mp h
      split at h
      · exact nomatch h
      · obtain ⟨-, h⟩ := Option.ite_none_left_eq_some.mp h
        obtain rfl := Option.some.inj h
        exact .inr rfl
  | restore s =>
      obtain ⟨t, ht, rfl⟩ := Option.map_eq_some_iff.mp h
      exact .inl (List.mem_filterMap.mpr ⟨s, hrestores, ht⟩)
  | request r =>
      obtain rfl := Option.some.inj h
      trivial
  | requestWide code target =>
      obtain rfl := Option.some.inj h
      trivial
  | _ => exact nomatch h

/-- **Invariant.** A property of module and device which the start establishes and every step
keeps holds of every reachable card, and what is saved has the property which the first one
gives it. -/
theorem Reachable.module_invariant {I : Tco.Module × Recorded δ → Prop} {S : Tco.Saved → Prop}
    (hstart : ∀ d : Recorded δ, I (Tco.Module.start d))
    (hsave : ∀ x, I x → S x.1.save)
    (hstep : ∀ saves x y, (∀ s ∈ saves, S s) → Tco.Module.Step saves x y → I x → I y)
    {saves : List SavedCard} (h : Reachable model saves c) :
    (∀ m, c.module = some m → I (m, c.device))
      ∧ ∀ s ∈ saves.filterMap SavedCard.module, S s := by
  induction h with
  | attach d =>
      refine ⟨fun m hmodule => ?_, fun s hs => nomatch hs⟩
      obtain ⟨d', rfl, hheld⟩ := attach_module model d hmodule
      exact hstep [] _ _ (fun s hs => nomatch hs) (.quiet rfl rfl rfl hheld) (hstart d')
  | save _ ih =>
      obtain ⟨hmodule, hsaves⟩ := ih
      refine ⟨hmodule, fun s hs => ?_⟩
      obtain ⟨t, ht, hsome⟩ := List.mem_filterMap.mp hs
      rcases List.mem_cons.mp ht with rfl | ht
      · obtain ⟨m, hm, rfl⟩ := Option.map_eq_some_iff.mp hsome
        exact hsave _ (hmodule m hm)
      · exact hsaves s (List.mem_filterMap.mpr ⟨t, ht, hsome⟩)
  | perform _ hrestores hperform ih =>
      obtain ⟨hmodule, hsaves⟩ := ih
      refine ⟨fun m hm => ?_, hsaves⟩
      cases Moves.perform (fun _ _ _ => demand_from hrestores) hperform with
      | absent _ hnone => exact nomatch hnone.symm.trans hm
      | steps hsome hsome' hsteps =>
          obtain rfl := Option.some.inj (hsome'.symm.trans hm)
          exact Tco.Module.invariant_of_steps (hstep _ · · hsaves) hsteps (hmodule _ hsome)

/-- **Invariant.** The same where anything may be restored, under a condition on the operations,
which restricts what clients bring in. -/
theorem ReachableBy.module_invariant {I : Tco.Module × Recorded δ → Prop}
    {Meets : Card (Recorded δ) → Nat → Operation → Prop}
    (hstart : ∀ d : Recorded δ, I (Tco.Module.start d))
    (hallowed : ∀ c now op m x, Meets c now op → c.module = some m → c.demand? op = some x →
      allowed m x)
    (hstep : ∀ x y, Tco.Module.StepBy allowed x y → I x → I y)
    (h : ReachableBy Meets model c) : ∀ m, c.module = some m → I (m, c.device) := by
  induction h with
  | attach d =>
      intro m hmodule
      obtain ⟨d', rfl, hheld⟩ := attach_module model d hmodule
      exact hstep _ _ (.quiet rfl rfl rfl hheld) (hstart d')
  | perform _ hmeets hperform ih =>
      intro m hm
      cases Moves.perform (hallowed _ _ _ · · hmeets) hperform with
      | absent _ hnone => exact nomatch hnone.symm.trans hm
      | steps hsome hsome' hsteps =>
          obtain rfl := Option.some.inj (hsome'.symm.trans hm)
          exact Tco.Module.invariant_of_steps hstep hsteps (ih _ hsome)

end Card

end TimecodeCard
