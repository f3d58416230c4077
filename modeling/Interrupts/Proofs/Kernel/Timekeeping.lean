import Interrupts.Proofs.Kernel.Acknowledge
import Interrupts.Proofs.Kernel.Heard
import Interrupts.Proofs.Kernel.Launching
import Interrupts.Proofs.Kernel.TickEvents
import Interrupts.Proofs.Pic.Delivery
import Interrupts.Proofs.Processor.Positions
import Interrupts.Proofs.Registry.Chains

/-!
# One tick from many timers

Every processor has a timer of its own, and all of them deliver line 0, whose only handler is that
of the tick. The tick counts on the first processor only, and the handler finds out for itself on
which one it runs.

A `TickRun` is any sequence of deliveries on any processors, with hooks set and cleared in between;
before each delivery the hardware may have gone on, and another processor may have taken over. What
such a history makes of the time is computed from its events alone (`ticksIn`, `told`), and the main
statement, `TickRun.keepsTime`, is that the kernel counts and tells exactly this.

The step lemma is `TickStep.follows`: after an event the time is what the event makes of it, and the
tick is still alone on its line. A delivery on another line reaches the handlers of devices, which
act on the hardware only, and one on line 0 reaches the tick, which asks the table of processors
where it runs. `TickRun.follows` adds the steps up by induction on the history.
-/

namespace Interrupts

open Boot

variable {X : Surroundings}

/-! ## Counting deliveries -/

namespace Registry

variable {H : Type} {r : Registry H} {irq : UInt8}

/-- The number of deliveries that a line has counted. -/
def deliveries (r : Registry H) (irq : UInt8) : UInt64 :=
  ((r.stats irq).map IrqStats.count).getD 0

theorem deliveries_eq : r.deliveries irq = ((r.line? irq).map IrqLine.count).getD 0 := by
  unfold deliveries stats
  rw [Option.map_map]
  rfl

/-- A delivery is counted on its own line. -/
theorem deliveries_countDelivery (hlt : irq.toNat < lineCount) (other : UInt8) :
    (r.countDelivery irq).deliveries other
      = r.deliveries other + if other = irq then 1 else 0 := by
  rw [deliveries_eq, countDelivery, line?_modifyLine, deliveries_eq]
  by_cases hother : other = irq
  · obtain ⟨l, hl⟩ := r.line?_of_lt hlt
    rw [if_pos hother, if_pos hother, hother, hl]
    rfl
  · rw [if_neg hother, if_neg hother, UInt64.add_zero]

/-- That nobody claimed it does not change the number. -/
theorem deliveries_countUnhandled (other : UInt8) :
    (r.countUnhandled irq).deliveries other = r.deliveries other := by
  rw [deliveries_eq, countUnhandled, line?_modifyLine, deliveries_eq]
  by_cases hother : other = irq
  · rw [if_pos hother, Option.map_map, hother]
    rfl
  · rw [if_neg hother]

end Registry

/-! ## The executing processor -/

section Executing

variable [Behaviour X] {c : Conduct X} {k k' : Kernel X}

/-- **The processor with this APIC id executes**: whoever asks is told so, whatever becomes of the
hardware meanwhile. -/
def Kernel.Executes (k : Kernel X) (id : UInt32) : Prop :=
  ∃ c : Conduct X, c.Lenient ∧ c.mayCount
    ∧ ∀ k', Kernel.Keeps c k k' → ∀ answer k'', currentApicId k' = .ok answer k'' → answer = id

/-- The source of APIC ids may be told. -/
theorem Kernel.executes_of_told {id : UInt32} (h : k.apicIdSource = .told id) : k.Executes id := by
  refine ⟨.free X False fun _ => False, Conduct.free_lenient _, trivial,
    fun k' hkeeps answer k'' hrun => ?_⟩
  have hsource : k'.apicIdSource = .told id := by rw [hkeeps.rest]; exact h
  obtain ⟨_, _, ⟨⟩, hrun⟩ := bind_eq_ok.mp hrun
  rw [hsource] at hrun
  exact (pure_eq_ok.mp hrun).1.symm

/-- **The processor at this position executes**, as long as the conduct is kept. -/
def Kernel.ExecutesAt (c : Conduct X) (k : Kernel X) (index : Nat) : Prop :=
  ∀ k', Kernel.Keeps c k k' → ∀ cpu k'', currentCpu k' = .ok cpu k'' → cpu = index

/-- A processor that knows its id knows its position, as ids are listed once. -/
theorem Kernel.Executes.at {id : UInt32} {index : Nat} (h : k.Executes id)
    (hnodup : k.processors.ids.Nodup) (hlisted : k.processors.ids[index]? = some id) :
    ∃ c : Conduct X, c.Lenient ∧ c.mayCount ∧ k.ExecutesAt c index := by
  obtain ⟨c, hlenient, hcount, htold⟩ := h
  -- the processor answers its id however often it is asked, and the table has that id once
  refine ⟨c, hlenient, hcount, fun k₁ hkeeps cpu k₂ hrun => ?_⟩
  obtain ⟨answer, k₃, hid, hrun⟩ := bind_eq_ok.mp hrun
  obtain ⟨_, _, ⟨⟩, hrun⟩ := bind_eq_ok.mp hrun
  obtain ⟨rfl, rfl⟩ := pure_eq_ok.mp hrun
  obtain rfl := htold k₁ hkeeps answer _ hid
  have hids := (hkeeps.trans (Conduct.obeys_currentApicId.returns hid)).processors.ids
  rw [ProcessorTable.indexOf?_of_ids_getElem? (hids ▸ hnodup) (hids ▸ hlisted)]
  rfl

end Executing

/-! ## Serving a line -/

section Serving

variable [Behaviour X] {r r' : Registry (KernelHandler X)} {v irq : UInt8} {irq? : Option UInt8}
  {f f' : Frame} {cpu : Nat} {outcome : DispatchOutcome} {a : ActiveController X}
  {k k' : Kernel X}

/-- **What the registry does with the line that was named**: it walks the chain of a line that
there is, and otherwise leaves everything alone. -/
theorem serveNamed_eq_ok
    (h : r.serveNamed (m := Boot X) a v irq? f cpu k = .ok (outcome, f', r') k') :
    (r' = r ∧ (∀ c : Conduct X, Kernel.Keeps c k k')
        ∧ (irq? = none ∨ ∃ irq, irq? = some irq ∧ outcome = .outOfRange irq))
      ∨ ∃ irq k₁, irq? = some irq ∧ irq.toNat < Registry.lineCount
        ∧ (∀ c : Conduct X, Kernel.Keeps c k k₁)
        ∧ r.runChain (m := Boot X) irq v f cpu k₁ = .ok (outcome, f', r') k' := by
  cases irq? with
  | none =>
    obtain ⟨⟨⟩, rfl⟩ := pure_eq_ok.mp h
    exact .inl ⟨rfl, fun c => .refl c k, .inl rfl⟩
  | some irq =>
    obtain ⟨lines, k₁, hlines, h⟩ := bind_eq_ok.mp h
    have hkeeps : ∀ c : Conduct X, Kernel.Keeps c k k₁ := fun c =>
      (Conduct.obeys_lineCount a).returns hlines
    split at h
    · obtain ⟨shown, k₂, hshown, h⟩ := bind_eq_ok.mp h
      obtain ⟨_, k₃, hlog, hpure⟩ := bind_eq_ok.mp h
      obtain ⟨⟨⟩, rfl⟩ := pure_eq_ok.mp hpure
      exact .inl ⟨rfl, fun c => ((hkeeps c).trans
        ((Conduct.obeys_lineCount a).returns hshown)).trans ((Conduct.obeys_emit _ _).returns hlog),
        .inr ⟨irq, rfl, rfl⟩⟩
    · rename_i hrange
      exact .inr ⟨irq, k₁, rfl,
        Nat.lt_of_lt_of_le (Nat.lt_of_not_le hrange) (Nat.min_le_right _ _), hkeeps, h⟩

/-- **The chain with nothing but the tick** claims the delivery: it asks who executes, and ticks on
the first processor. -/
theorem runChain_tick {id : HandlerId} {t : TimerTick} (htable : t.source = .table)
    (hchain : r.chain irq = [⟨id, none, .tick t⟩])
    (h : r.runChain (m := Boot X) irq v f cpu k = .ok (outcome, f', r') k') :
    outcome = .handled irq ∧ r' = r.countDelivery irq
      ∧ ∃ here k₁, currentCpu k = .ok here k₁
        ∧ (here = 0 ∧ (∃ now, tick k₁ = .ok now k') ∨ here ≠ 0 ∧ k' = k₁) := by
  -- the chain is one entry long, and that entry claims every delivery it is asked about
  obtain ⟨⟨verdict, left⟩, k₂, hask, h⟩ := bind_eq_ok.mp h
  rw [hchain] at hask
  obtain ⟨⟨answer, f₁⟩, k₃, hserve, hask⟩ := bind_eq_ok.mp hask
  obtain ⟨claim, k₄, htick, hserve⟩ := bind_eq_ok.mp hserve
  obtain ⟨⟨⟩, rfl⟩ := pure_eq_ok.mp hserve
  obtain ⟨here, k₁, hhere, htick⟩ := bind_eq_ok.mp htick
  rw [htable] at hhere
  split at htick
  · rename_i hfirst
    obtain ⟨now, k₅, hnow, hpure⟩ := bind_eq_ok.mp htick
    obtain ⟨rfl, rfl⟩ := pure_eq_ok.mp hpure
    obtain ⟨⟨⟩, rfl⟩ := pure_eq_ok.mp hask
    obtain ⟨⟨⟩, rfl⟩ := pure_eq_ok.mp h
    exact ⟨rfl, rfl, here, k₁, hhere, .inl ⟨hfirst, now, hnow⟩⟩
  · rename_i hother
    obtain ⟨rfl, rfl⟩ := pure_eq_ok.mp htick
    obtain ⟨⟨⟩, rfl⟩ := pure_eq_ok.mp hask
    obtain ⟨⟨⟩, rfl⟩ := pure_eq_ok.mp h
    exact ⟨rfl, rfl, here, k₁, hhere, .inr ⟨hother, rfl⟩⟩

end Serving

/-! ## Ticks -/

section Ticking

variable [Behaviour X] {k k' k'' : Kernel (Watched (Heard X))}

/-- **A tick passes, or no time at all.** -/
structure Kernel.TicksIf (ticked : Prop) [Decidable ticked] (k k' : Kernel (Watched (Heard X))) :
    Prop where
  /-- One tick more is counted, or none. -/
  ticks : k'.ticks = if ticked then k.ticks + 1 else k.ticks
  /-- The hook of that time is told of it, if there is one. -/
  heard : k'.heard = k.heard ++ if ticked then tellings k.hook (k.ticks + 1) else []
  /-- A tick does not change the hook. -/
  hook : k'.hook = k.hook

variable {ticked : Prop} [Decidable ticked]

omit [Behaviour X] in
theorem Kernel.SameTime.refl (k : Kernel (Watched (Heard X))) : k.SameTime k :=
  ⟨rfl, rfl, rfl⟩

omit [Behaviour X] in
/-- The registry does not tell the time. -/
theorem Kernel.SameTime.of_registry {r : Registry (KernelHandler (Watched (Heard X)))}
    (h : k.SameTime k') : k.SameTime { k' with registry := r } :=
  ⟨h.heard, h.ticks, h.hook⟩

omit [Behaviour X] in
/-- Where no time passed, no tick was due. -/
theorem Kernel.SameTime.ticks_of_not (h : k.SameTime k') (hnot : ¬ticked) :
    k.TicksIf ticked k' where
  ticks := by rw [if_neg hnot, h.ticks]
  heard := by rw [if_neg hnot, h.heard, List.append_nil]
  hook := h.hook

omit [Behaviour X] in
/-- What comes before a tick, or after it, without any time passing may be added to it. -/
theorem Kernel.SameTime.trans_ticks (h : k.SameTime k') (h' : k'.TicksIf ticked k'') :
    k.TicksIf ticked k'' where
  ticks := by rw [h'.ticks, h.ticks]
  heard := by rw [h'.heard, h.heard, h.ticks, h.hook]
  hook := h'.hook.trans h.hook

omit [Behaviour X] in
theorem Kernel.TicksIf.trans_sameTime (h : k.TicksIf ticked k') (h' : k'.SameTime k'') :
    k.TicksIf ticked k'' where
  ticks := h'.ticks.trans h.ticks
  heard := h'.heard.trans h.heard
  hook := h'.hook.trans h.hook

/-- A tick counts, and the hook in force is told. -/
theorem ticks_of_tick {now : UInt64} (hticked : ticked)
    (h : tick (X := Watched (Heard X)) k = .ok now k') : k.TicksIf ticked k' := by
  obtain ⟨_, _, ⟨⟩, h⟩ := bind_eq_ok.mp h
  -- the count goes up before the hook is looked at, so the hook is told the new count
  obtain ⟨_, k₁, hupdate, h⟩ := bind_eq_ok.mp h
  cases hupdate
  obtain ⟨_, _, ⟨⟩, h⟩ := bind_eq_ok.mp h
  cases hhook : k.tickHook with
  | none =>
    rw [show ({ k with ticks := k.ticks + 1 } : Kernel (Watched (Heard X))).tickHook = none
      from hhook] at h
    obtain ⟨-, rfl⟩ := pure_eq_ok.mp h
    have hnone : tellings k.hook (k.ticks + 1) = [] := congrArg (tellings · _) hhook
    exact ⟨(if_pos hticked).symm, by rw [if_pos hticked, hnone]; exact (List.append_nil _).symm,
      rfl⟩
  | some hook =>
    rw [show ({ k with ticks := k.ticks + 1 } : Kernel (Watched (Heard X))).tickHook = some hook
      from hhook] at h
    obtain ⟨_, _, hrun, hpure⟩ := bind_eq_ok.mp h
    obtain ⟨-, rfl⟩ := pure_eq_ok.mp hpure
    cases hrun
    have hsome : tellings k.hook (k.ticks + 1) = [(hook, k.ticks + 1)] :=
      congrArg (tellings · _) hhook
    exact ⟨(if_pos hticked).symm, by rw [if_pos hticked, hsome]; rfl, rfl⟩

/-- **The tick has line 0 for itself**, on all processors, and no other line ticks. No two
processors share an APIC id. -/
structure Kernel.TimerAlone (k : Kernel X) : Prop where
  /-- The tick is the only handler of line 0, and asks the table who it runs on. -/
  line : ∃ id t, t.source = .table ∧ k.registry.chain 0 = [⟨id, none, .tick t⟩]
  /-- The handlers of the other lines are those of devices. -/
  devices : ∀ irq ≠ 0, ∀ e ∈ k.registry.chain irq, ∃ d, e.handler = .device d
  /-- So the boot processor is the only one with its id. -/
  distinct : k.processors.ids.Nodup

omit [Behaviour X] in
/-- It is a matter of the chains and the list of processors. -/
theorem Kernel.TimerAlone.of_eq {k k' : Kernel X} (h : k.TimerAlone)
    (hchain : k'.registry.chain = k.registry.chain)
    (hids : k'.processors.ids = k.processors.ids) : k'.TimerAlone where
  line := hchain ▸ h.line
  devices := hchain ▸ h.devices
  distinct := hids ▸ h.distinct

end Ticking

/-! ## Deliveries -/

section Delivering

variable [Behaviour X]

/-- **The controller in charge names this line**, or none, when the delivery arrives; without a
controller there is no line to name. -/
def Kernel.Names (k : Kernel X) (f : Frame) (irq? : Option UInt8) : Prop :=
  match k.active with
  | none => irq? = none
  | some a => ∃ cpu k₀ k₁, currentCpu k = .ok cpu k₀
    ∧ Controller.currentIrq (m := Boot X) a f.vectorByte k₀ = .ok irq? k₁

/-- A line that was claimed had been named. -/
theorem names_of_handled {k k' : Kernel X} {f f' : Frame} {irq : UInt8}
    (h : dispatchIrq f k = .ok (.handled irq, f') k') : k.Names f (some irq) := by
  unfold Kernel.Names
  cases hactive : k.active with
  | none =>
    obtain ⟨_, _, ⟨⟩, h⟩ := bind_eq_ok.mp h
    rw [hactive] at h
    obtain ⟨_, _, -, hpure⟩ := bind_eq_ok.mp h
    exact nomatch (pure_eq_ok.mp hpure).1
  | some a =>
    obtain ⟨cpu, k₀, irq?, k₁, k₂, k₃, r, hcpu, hirq, hserve, -, -⟩ :=
      dispatchIrq_stages hactive h
    refine ⟨cpu, k₀, k₁, hcpu, hirq.trans ?_⟩
    obtain ⟨-, -, rfl | ⟨_, -, ⟨⟩⟩⟩ | ⟨irq', k₄, rfl, -, -, hrun⟩ := serveNamed_eq_ok hserve
    · exact nomatch (pure_eq_ok.mp hserve).1
    · obtain ⟨⟨⟩, -⟩ | ⟨⟨⟩, -⟩ := runChain_eq_ok hrun
      rfl

/-- **Time passes as the event says.** -/
structure Kernel.Follows (k : Kernel (Watched (Heard X))) (e : TickEvent X)
    (k' : Kernel (Watched (Heard X))) : Prop where
  /-- The count of ticks is what the event makes of it. -/
  ticks : k'.ticks = e.count k.ticks
  /-- The hook is told what the event says, and nothing else. -/
  heard : k'.heard = k.heard ++ e.told k.hook k.ticks
  /-- Only setting or clearing the hook changes it. -/
  hook : k'.hook = e.hookAfter k.hook
  /-- Line 0 counts its deliveries. -/
  deliveries : k'.registry.deliveries 0
    = k.registry.deliveries 0 + if e.timer?.isSome then 1 else 0
  /-- The handler of the tick claims them. -/
  handled : ∀ index outcome, e = .delivered index (some 0) outcome → outcome ≠ .outOfRange 0 →
    outcome = .handled 0
  /-- The next event finds the tick alone on its line again. -/
  timerAlone : k'.TimerAlone

variable {k k₀ k₁ k₂ k' : Kernel (Watched (Heard X))} {a : ActiveController (Watched (Heard X))}
  {f f' : Frame} {irq? : Option UInt8} {outcome : DispatchOutcome} {index : Nat}

omit [Behaviour X] in
/-- A delivery of which line 0 learns nothing. -/
theorem Kernel.Follows.of_sameTime (halone : k.TimerAlone) (htime : k.SameTime k')
    (hids : k'.processors.ids = k.processors.ids) (hchain : k'.registry.chain = k.registry.chain)
    (hcount : k'.registry.deliveries 0 = k.registry.deliveries 0)
    (hother : irq? = some 0 → outcome = .outOfRange 0) :
    k.Follows (.delivered index irq? outcome) k' := by
  have hnone : (TickEvent.delivered index irq? outcome : TickEvent X).timer? = none :=
    if_neg fun h => h.2 (hother h.1)
  have hquiet : ¬(TickEvent.delivered index irq? outcome : TickEvent X).IsTick := fun h => by
    rw [TickEvent.IsTick, hnone] at h
    exact Option.some_ne_none _ h.symm
  obtain ⟨hticks, hheard, hhook⟩ := htime.ticks_of_not hquiet
  refine ⟨hticks, hheard, hhook, ?_, fun _ _ h hne => ?_, halone.of_eq hchain hids⟩
  · rw [hcount, hnone]
    exact (UInt64.add_zero _).symm
  · cases h
    exact absurd (hother rfl) hne

omit [Behaviour X] in
/-- A delivery of line 0, claimed by the handler of the tick. -/
theorem Kernel.Follows.of_ticks (halone : k.TimerAlone) (htime : k.TicksIf (index = 0) k')
    (hids : k'.processors.ids = k.processors.ids)
    (hcount : k'.registry = k.registry.countDelivery 0) :
    k.Follows (.delivered index (some 0) (.handled 0)) k' := by
  have htick : _ ↔ index = 0 := TickEvent.isTick_claimed (X := X)
  obtain ⟨hticks, hheard, hhook⟩ := htime
  refine ⟨?_, ?_, hhook, ?_, fun _ _ h _ => by cases h; rfl, ?_⟩
  · exact hticks.trans (if_congr htick.symm rfl rfl)
  · exact hheard.trans (congrArg (k.heard ++ ·) (if_congr htick.symm rfl rfl))
  · rw [hcount, Registry.deliveries_countDelivery (by decide), TickEvent.timer?_claimed]
    rfl
  · exact halone.of_eq (by rw [hcount, Registry.chain_countDelivery]) hids

omit [Behaviour X] in
/-- What comes behind an event without any time passing may be added to it. -/
theorem Kernel.Follows.trans_sameTime {e : TickEvent X} {k'' : Kernel (Watched (Heard X))}
    (h : k.Follows e k') (hsame : k'.SameTime k'')
    (hids : k''.processors.ids = k'.processors.ids) (hregistry : k''.registry = k'.registry) :
    k.Follows e k'' where
  ticks := hsame.ticks.trans h.ticks
  heard := hsame.heard.trans h.heard
  hook := hsame.hook.trans h.hook
  deliveries := hregistry ▸ h.deliveries
  handled := h.handled
  timerAlone := h.timerAlone.of_eq (by rw [hregistry]) hids

/-- **Serving a line keeps the time.** -/
theorem serveNamed_follows {cpu : Nat} {v : UInt8}
    {r' : Registry (KernelHandler (Watched (Heard X)))} {c : Conduct (Watched (Heard X))}
    (halone : k.TimerAlone) (hexecutes : k.ExecutesAt c index) (hkeeps : Kernel.Keeps c k k₁)
    (hsame : Kernel.Keeps (hushed X) k k₁)
    (h : k.registry.serveNamed (m := Boot (Watched (Heard X))) a v irq? f cpu k₁
      = .ok (outcome, f', r') k₂) :
    k.Follows (.delivered index irq? outcome) { k₂ with registry := r' } := by
  -- Either no chain is run, or the chain of the line that was named.
  rcases serveNamed_eq_ok h with ⟨rfl, hall, hnone⟩ | ⟨irq, k₃, rfl, hlt, hall, hrun⟩
  · have hsame₂ := hsame.trans (hall _)
    refine .of_sameTime halone hsame₂.sameTime.of_registry hsame₂.processors.ids rfl rfl ?_
    intro hzero
    obtain hnone | ⟨irq, hnamed, rfl⟩ := hnone
    · exact nomatch hzero.symm.trans hnone
    · rw [Option.some.inj (hnamed.symm.trans hzero)]
  · have hsame₃ := hsame.trans (hall _)
    by_cases hirq : irq = 0
    · subst hirq
      obtain ⟨id, t, htable, hchain⟩ := halone.line
      obtain ⟨rfl, rfl, here, k₄, hhere, hticked⟩ := runChain_tick htable hchain hrun
      -- The tick asks again who executes, and gets the same answer.
      obtain rfl := hexecutes k₃ (hkeeps.trans (hall c)) here k₄ hhere
      have hsame₄ := hsame₃.trans (Conduct.obeys_currentCpu.returns hhere)
      rcases hticked with ⟨hfirst, now, hnow⟩ | ⟨hother, rfl⟩
      · have hraises := ((Conduct.obeys_tick (c := .free (Watched (Heard X)) False fun _ => False)
          trivial).returns hnow).processors
        exact .of_ticks halone ((hsame₄.sameTime.trans_ticks
          (ticks_of_tick hfirst hnow)).trans_sameTime (.of_registry (.refl _)))
          (hraises.ids.trans hsame₄.processors.ids) rfl
      · exact .of_ticks halone (hsame₄.sameTime.of_registry.ticks_of_not hother)
          hsame₄.processors.ids rfl
    · have hsame₂ := hsame₃.trans
        ((Conduct.obeys_runChain (.inr (halone.devices irq hirq)) v f cpu).returns hrun)
      refine .of_sameTime halone hsame₂.sameTime.of_registry hsame₂.processors.ids ?_ ?_
        fun h => absurd (Option.some.inj h) hirq
      · rcases runChain_eq_ok hrun with ⟨-, rfl⟩ | ⟨-, rfl⟩ <;> simp
      · rcases runChain_eq_ok hrun with ⟨-, rfl⟩ | ⟨-, rfl⟩ <;>
          simp [Registry.deliveries_countUnhandled, Registry.deliveries_countDelivery hlt,
            Ne.symm hirq]

/-- **A delivery keeps the time**, on whichever processor it is served. -/
theorem dispatchIrq_follows {id : UInt32} (halone : k.TimerAlone)
    (hlisted : k.processors.ids[index]? = some id) (hexecutes : k.Executes id)
    (hnames : k.Names f irq?) (h : dispatchIrq f k = .ok (outcome, f') k') :
    k.Follows (.delivered index irq? outcome) k' := by
  unfold Kernel.Names at hnames
  cases hactive : k.active with
  | none =>
    rw [hactive] at hnames
    obtain rfl := hnames
    obtain ⟨_, _, ⟨⟩, h⟩ := bind_eq_ok.mp h
    rw [hactive] at h
    obtain ⟨_, _, hlog, hpure⟩ := bind_eq_ok.mp h
    obtain ⟨-, rfl⟩ := pure_eq_ok.mp hpure
    have hsame := (Conduct.obeys_emit (c := hushed X) _ _).returns hlog
    have hregistry := (hsame.counts.resolve_left fun hcount => hcount).1
    exact .of_sameTime halone hsame.sameTime hsame.processors.ids (by rw [hregistry])
      (by rw [hregistry]) nofun
  | some a =>
    rw [hactive] at hnames
    obtain ⟨cpu, k₀, k₁, hcpu, hirq⟩ := hnames
    obtain ⟨_, _, _, _, k₂, k₃, r, hcpu', hirq', hserve, heoi, rfl⟩ :=
      dispatchIrq_stages hactive h
    cases hcpu.symm.trans hcpu'
    cases hirq.symm.trans hirq'
    -- Two conducts are needed: one in which the processor stays the same while handlers run, and
    -- one that sees no time pass.
    obtain ⟨c, hlenient, hcount, hat⟩ := hexecutes.at halone.distinct hlisted
    have hkeeps₀ : ∀ c : Conduct (Watched (Heard X)), Kernel.Keeps c k k₀ := fun _ =>
      Conduct.obeys_currentCpu.returns hcpu
    have hactive₀ := (hkeeps₀ c).active.trans hactive
    have hkeeps := (hkeeps₀ c).trans
      ((Conduct.obeys_currentIrq (fun _ => hlenient.write _ _) hactive₀ _).returns hirq)
    have hsame := (hkeeps₀ (hushed X)).trans
      ((Conduct.obeys_currentIrq (fun _ => trivial) hactive₀ _).returns hirq)
    have hregistry := ((hkeeps₀ (hushed X)).counts.resolve_left fun hcount => hcount).1
    rw [hregistry] at hserve
    have hfollows := serveNamed_follows halone hat hkeeps hsame hserve
    have hactive₂ : k₂.active = some a :=
      (((Conduct.obeys_serveNamed (c := c) (.inl hcount) a _ f _).returns hserve).active.trans
        hkeeps.active).trans hactive
    have hended := (Conduct.obeys_eoi (c := hushed X) (fun _ => trivial) (fun _ _ => trivial)
      hactive₂ _ _).returns heoi
    have htime := hended.sameTime
    exact hfollows.trans_sameTime ⟨htime.heard, htime.ticks, htime.hook⟩ hended.processors.ids
      rfl

end Delivering

/-! ## Runs -/

section Runs

variable [Behaviour X] {k k₁ k' k'' : Kernel (Watched (Heard X))} {e : TickEvent X}
  {events : List (TickEvent X)}

/-- **Between two calls** the hardware goes on, and another processor may take over. -/
def Kernel.GoesOn (k k' : Kernel (Watched (Heard X))) : Prop :=
  ∃ hw source, k' = { k with hardware := ((hw, k.heard), k.events), apicIdSource := source }

/-- **One step**: a hook is set or cleared, or an interrupt is delivered on a processor. -/
inductive TickStep : Kernel (Watched (Heard X)) → TickEvent X → Kernel (Watched (Heard X)) → Prop
  /-- The hook is set, or cleared. -/
  | hooked {k k' : Kernel (Watched (Heard X))} {hook : Option X.Hook}
    (run : setTickHook (X := Watched (Heard X)) hook k = .ok () k') : TickStep k (.hooked hook) k'
  /-- The hardware goes on, and then a listed processor serves an interrupt. -/
  | delivered {k k₁ k' : Kernel (Watched (Heard X))} {index : Nat} {id : UInt32} {f f' : Frame}
    {irq? : Option UInt8} {outcome : DispatchOutcome} (goesOn : k.GoesOn k₁)
    (listed : k₁.processors.ids[index]? = some id) (executes : k₁.Executes id)
    (routed : Vectors.route f.vectorByte = .irq) (names : k₁.Names f irq?)
    (run : dispatchIrq f k₁ = .ok (outcome, f') k') :
    TickStep k (.delivered index irq? outcome) k'

/-- **Any sequence of deliveries and of hooks set or cleared.** -/
inductive TickRun :
    Kernel (Watched (Heard X)) → List (TickEvent X) → Kernel (Watched (Heard X)) → Prop
  | nil {k : Kernel (Watched (Heard X))} : TickRun k [] k
  | cons {k k₁ k' : Kernel (Watched (Heard X))} {e : TickEvent X} {events : List (TickEvent X)}
    (step : TickStep k e k₁) (rest : TickRun k₁ events k') : TickRun k (e :: events) k'

omit [Behaviour X] in
/-- Meanwhile no time passes. -/
theorem Kernel.GoesOn.follows {index : Nat} {irq? : Option UInt8} {outcome : DispatchOutcome}
    (h : k.GoesOn k₁) (hfollows : k₁.Follows (.delivered index irq? outcome) k') :
    k.Follows (.delivered index irq? outcome) k' := by
  obtain ⟨hw, source, rfl⟩ := h
  exact ⟨hfollows.ticks, hfollows.heard, hfollows.hook, hfollows.deliveries,
    hfollows.handled, hfollows.timerAlone⟩

omit [Behaviour X] in
theorem Kernel.GoesOn.timerAlone (h : k.GoesOn k₁) (halone : k.TimerAlone) : k₁.TimerAlone := by
  obtain ⟨hw, source, rfl⟩ := h
  exact halone.of_eq rfl rfl

/-- **Every step keeps the time.** -/
theorem TickStep.follows (halone : k.TimerAlone) (h : TickStep k e k') : k.Follows e k' := by
  cases h with
  | hooked run =>
    cases run
    exact ⟨rfl, (List.append_nil _).symm, rfl, (UInt64.add_zero _).symm, nofun,
      halone.of_eq rfl rfl⟩
  | delivered goesOn listed executes routed names run =>
    exact goesOn.follows
      (dispatchIrq_follows (goesOn.timerAlone halone) listed executes names run)

/-- What a run leaves: it counts and tells what its events say. -/
theorem TickRun.follows (halone : k.TimerAlone) (h : TickRun k events k') :
    k'.TimerAlone ∧ k'.ticks = k.ticks + UInt64.ofNat (ticksIn events)
      ∧ k'.heard = k.heard ++ told k.hook k.ticks events
      ∧ k'.hook = hookAfter k.hook events
      ∧ k'.registry.deliveries 0
        = k.registry.deliveries 0 + UInt64.ofNat (timerDeliveries events)
      ∧ ∀ index outcome, .delivered index (some 0) outcome ∈ events → outcome ≠ .outOfRange 0 →
        outcome = .handled 0 := by
  induction h with
  | nil =>
    exact ⟨halone, (UInt64.add_zero _).symm, (List.append_nil _).symm, rfl,
      (UInt64.add_zero _).symm, fun _ _ h => absurd h List.not_mem_nil⟩
  | @cons k k₁ k' e events step rest ih =>
    have hstep := step.follows halone
    obtain ⟨halone', hticks, hheard, hhook, hdeliveries, hhandled⟩ := ih hstep.timerAlone
    refine ⟨halone', ?_, ?_, ?_, ?_, fun index outcome hmem hne => ?_⟩
    · rw [hticks, hstep.ticks, e.count_add]
    · rw [hheard, hstep.heard, hstep.hook, hstep.ticks, List.append_assoc]
      rfl
    · rw [hhook, hstep.hook]
      rfl
    · rw [hdeliveries, hstep.deliveries, timerDeliveries_cons, Nat.add_comm, UInt64.ofNat_add,
        ← UInt64.add_assoc]
      cases e.timer?.isSome <;> rfl
    · rcases List.mem_cons.mp hmem with rfl | hmem
      · exact hstep.handled index outcome rfl hne
      · exact hhandled index outcome hmem hne

/-- **A delivery of line 0 is acknowledged once**, when its handlers have run, in the way of the
controller in charge. -/
def Kernel.AcknowledgesOnce (k : Kernel (Watched (Heard X))) (f : Frame)
    (k' : Kernel (Watched (Heard X))) : Prop :=
  ∃ a f' k₁ k₂, k.active = some a ∧ HandlersRan a f k (some 0) f' k₁
    ∧ Silently k.hardware k₁.hardware
    ∧ Controller.eoi (m := Boot (Watched (Heard X))) a f.vectorByte (some 0) k₁ = .ok () k₂
    ∧ k'.hardware = k₂.hardware
    ∧ (∀ c, a = .apic c → k'.events
        = k₁.events ++ [.store (c.localApic.window.virtBase + LocalApic.endOfInterrupt) 0])
    ∧ (a = .pic → k'.events = k₁.events ++ [.out 0x20 0x20])

/-- A delivery of line 0 is acknowledged like any other. -/
theorem dispatchIrq_acknowledgesOnce {f f' : Frame} {outcome : DispatchOutcome}
    (hroute : Vectors.route f.vectorByte = .irq) (hnames : k.Names f (some 0))
    (h : dispatchIrq f k = .ok (outcome, f') k') : k.AcknowledgesOnce f k' := by
  unfold Kernel.Names at hnames
  cases hactive : k.active with
  | none =>
    rw [hactive] at hnames
    exact nomatch hnames
  | some a =>
    rw [hactive] at hnames
    obtain ⟨cpu, k₀, k₁, hcpu, hirq⟩ := hnames
    obtain ⟨_, _, _, _, k₂, k₃, r, hcpu', hirq', hserve, heoi, rfl⟩ :=
      dispatchIrq_stages hactive h
    cases hcpu.symm.trans hcpu'
    cases hirq.symm.trans hirq'
    have hran : HandlersRan a f k (some 0) f' k₂ :=
      ⟨cpu, k₀, k₁, outcome, r, hcpu, hirq, hserve⟩
    refine ⟨a, f', k₂, k₃, hactive, hran, (hran.silently hactive).1, heoi, rfl, ?_, ?_⟩
    · rintro c rfl
      have hvector : f.vectorByte ≠ LocalApic.spuriousVector := fun hspurious =>
        absurd (hspurious ▸ (Vectors.route_eq_irq_iff.mp hroute).2) (by decide)
      have hevents := acknowledge_apic_events hvector heoi
      exact hevents
    · rintro rfl
      have hevents := acknowledge_pic_events heoi
      exact hevents

/-- **The time is kept**, over any run in which line 0 has the tick for its only handler and the
count does not run out, whatever processors there are, and whatever the other handlers, the hooks
and the controller in charge do.

The count grows by the deliveries of line 0 on the first processor. The hooks are told what the
events say: each count once, in order, and all of them while a hook stays set. Line 0 counts its
deliveries on all processors, and every one of them is claimed.

After any such run, one more delivery of line 0 does the same: it is claimed and acknowledged once,
line 0 counts it, and the tick counts if it is served on the first processor. On a calm kernel,
deliveries always return. -/
theorem TickRun.keepsTime (halone : k.TimerAlone) (hrun : TickRun k events k')
    (hfit : k.ticks.toNat + ticksIn events < UInt64.size) :
    k'.ticks.toNat = k.ticks.toNat + ticksIn events
      ∧ k'.heard = k.heard ++ told k.hook k.ticks events
      ∧ (told k.hook k.ticks events).Pairwise (fun p q => p.2 < q.2)
      ∧ (∀ before during after h, events = before ++ (during ++ after) →
        hookAfter k.hook before = some h → (∀ hook, .hooked hook ∉ during) →
        ∃ earlier later, k'.heard = earlier ++ (List.range (ticksIn during)).map
          (fun i => (h, k.ticks + UInt64.ofNat (ticksIn before) + UInt64.ofNat (i + 1))) ++ later)
      ∧ k'.registry.deliveries 0
        = k.registry.deliveries 0 + UInt64.ofNat (timerDeliveries events)
      ∧ (∀ index outcome, .delivered index (some 0) outcome ∈ events → outcome ≠ .outOfRange 0 →
        outcome = .handled 0)
      ∧ ∀ index id f k₁, k'.GoesOn k₁ → k₁.processors.ids[index]? = some id → k₁.Executes id →
        Vectors.route f.vectorByte = .irq →
          (k'.Calm → ∃ result k'', dispatchIrq f k₁ = .ok result k'')
          ∧ ∀ outcome f' k'', dispatchIrq f k₁ = .ok (outcome, f') k'' → k₁.Names f (some 0) →
            outcome ≠ .outOfRange 0 →
              outcome = .handled 0 ∧ k₁.AcknowledgesOnce f k''
                ∧ k''.registry.deliveries 0 = k'.registry.deliveries 0 + 1
                ∧ (index = 0 → k''.ticks = k'.ticks + 1
                  ∧ k''.heard = k'.heard ++ tellings k'.hook (k'.ticks + 1))
                ∧ (index ≠ 0 → k''.ticks = k'.ticks ∧ k''.heard = k'.heard) := by
  obtain ⟨halone', hticks, hheard, -, hdeliveries, hhandled⟩ := hrun.follows halone
  refine ⟨?_, hheard, (told_numbers hfit).1, ?_, hdeliveries, hhandled, ?_⟩
  · rw [hticks, UInt64.toNat_add, UInt64.toNat_ofNat', Nat.add_mod_mod]
    exact Nat.mod_eq_of_lt hfit
  · rintro before during after h rfl hhook hsteady
    -- the tellings are cut at the two ends of the stretch, in which the hook stays the same
    refine ⟨k.heard ++ told k.hook k.ticks before,
      told (hookAfter (some h) during)
        (k.ticks + UInt64.ofNat (ticksIn before) + UInt64.ofNat (ticksIn during)) after, ?_⟩
    rw [hheard, told_append, hhook, told_append, told_of_steady hsteady, ← List.append_assoc,
      ← List.append_assoc]
  · intro index id f k₁ hgoes hlisted hexecutes hroute
    refine ⟨fun hcalm => ?_, fun outcome f' k'' hdispatch hnames hrange => ?_⟩
    · have hcalm₁ : k₁.Calm := by
        obtain ⟨hw, source, rfl⟩ := hgoes
        exact ⟨hcalm.backend, hcalm.localApic, hcalm.active⟩
      exact hcalm₁.returns (Conduct.obeys_dispatchIrq trivial (fun _ => trivial)
        (fun _ => trivial) (fun _ _ => trivial) f)
    · have hfollows := hgoes.follows (dispatchIrq_follows (hgoes.timerAlone halone') hlisted
        hexecutes hnames hdispatch)
      obtain rfl := hfollows.handled index outcome rfl hrange
      obtain ⟨hticks', hheard', -, hdeliveries', -, -⟩ := hfollows
      rw [TickEvent.timer?_claimed] at hdeliveries'
      refine ⟨rfl, dispatchIrq_acknowledgesOnce hroute hnames hdispatch, hdeliveries',
        fun hfirst => ?_, fun hother => ?_⟩
      · have htick := (TickEvent.isTick_claimed (X := X)).mpr hfirst
        exact ⟨hticks'.trans (if_pos htick), hheard'.trans (congrArg _ (if_pos htick))⟩
      · have hquiet := fun htick => hother ((TickEvent.isTick_claimed (X := X)).mp htick)
        exact ⟨hticks'.trans (if_neg hquiet),
          (hheard'.trans (congrArg _ (if_neg hquiet))).trans (List.append_nil _)⟩

end Runs

/-! ## Two timers -/

/-- A machine with two processors, whose timers deliver line 0 through the 8259 pair. -/
def twoTimers : Kernel (Watched (Heard (Reporting 0x01 0x00))) :=
  { hardware := (((), []), [])
    active := some .pic
    processors := (ProcessorTable.discover {} 0 [3]).2
    registry := Registry.empty.modifyLine 0 fun l =>
      { l with chain := [⟨⟨1⟩, none, .tick { hz := 100 }⟩] } }

namespace TwoTimers

variable {k : Kernel (Watched (Heard (Reporting 0x01 0x00)))} {id : UInt32} {index : Nat}

/-- A timer interrupts the processor with this APIC id. -/
def delivery (id : UInt32) (k : Kernel (Watched (Heard (Reporting 0x01 0x00)))) :=
  dispatchIrq (Frame.forVector 0x20 0) { k with apicIdSource := .told id }

/-- What comes of the interrupt. -/
def outcome? (id : UInt32) (k : Kernel (Watched (Heard (Reporting 0x01 0x00)))) :
    Option DispatchOutcome :=
  match delivery id k with
  | .ok answer _ => some answer.1
  | .error _ _ => none

/-- The kernel after the interrupt. -/
def served (id : UInt32) (k : Kernel (Watched (Heard (Reporting 0x01 0x00)))) :
    Kernel (Watched (Heard (Reporting 0x01 0x00))) :=
  match delivery id k with
  | .ok _ k' => k'
  | .error _ k' => k'

/-- A delivery that was seen to be claimed is one that returned. -/
theorem exists_delivery (h : outcome? id k = some (.handled 0)) :
    ∃ f', delivery id k = .ok (.handled 0, f') (served id k) := by
  unfold outcome? at h
  unfold served
  split at h
  next answer k' hrun =>
    obtain ⟨outcome, f'⟩ := answer
    obtain rfl : outcome = .handled 0 := Option.some.inj h
    exact ⟨f', hrun⟩
  next => exact nomatch h

/-- It is a step of a run. -/
theorem tickStep (hlisted : k.processors.ids[index]? = some id)
    (h : outcome? id k = some (.handled 0)) :
    TickStep k (.delivered index (some 0) (.handled 0)) (served id k) := by
  obtain ⟨f', hrun⟩ := exists_delivery h
  exact .delivered ⟨k.hardware.1.1, .told id, rfl⟩ hlisted (Kernel.executes_of_told rfl)
    (by decide) (names_of_handled hrun) hrun

/-- In this kernel the tick is alone on line 0. -/
theorem timerAlone : twoTimers.TimerAlone where
  line := ⟨⟨1⟩, { hz := 100 }, rfl, rfl⟩
  devices := fun irq hirq e he => by
    have hchain : twoTimers.registry.chain irq = [] := by
      rw [twoTimers, Registry.chain_eq_getD, Registry.line?_modifyLine, if_neg hirq,
        ← Registry.chain_eq_getD, Registry.chain_empty]
    exact absurd (hchain ▸ he) List.not_mem_nil
  distinct := by decide

/-- Both timers deliver line 0, the first one twice, and the hook is cleared before the second
tick: two ticks, of which the hook is told the first, and three deliveries. One more delivery by
the second timer is claimed and acknowledged, and no time passes. -/
theorem keepsTime_twoTimers :
    let k := twoTimers
    let events : List (TickEvent (Reporting 0x01 0x00)) :=
      [.hooked (some ()), .delivered 1 (some 0) (.handled 0), .delivered 0 (some 0) (.handled 0),
        .hooked none, .delivered 0 (some 0) (.handled 0)]
    k.TimerAlone ∧ k.ticks.toNat + ticksIn events < UInt64.size
      ∧ ∃ k', TickRun k events k' ∧ k'.ticks.toNat = 2 ∧ k'.heard = [((), 1)]
        ∧ k'.registry.deliveries 0 = 3
        ∧ ∃ f' k'', delivery 3 k' = .ok (.handled 0, f') k'' ∧ k''.ticks = k'.ticks
          ∧ k''.registry.deliveries 0 = k'.registry.deliveries 0 + 1
          ∧ Kernel.AcknowledgesOnce { k' with apicIdSource := .told 3 } (Frame.forVector 0x20 0)
            k'' := by
  intro k events
  have hfit : k.ticks.toNat + ticksIn events < UInt64.size := by decide +kernel
  -- The run, step by step: what each step leaves is computed, and then forgotten.
  let k₁ := { k with tickHook := some () }
  let k₂ := served 3 k₁
  let k₃ := served 0 k₂
  let k₄ := { k₃ with tickHook := none }
  let k₅ := served 0 k₄
  have hset : TickStep k (.hooked (some ())) k₁ := .hooked rfl
  have hother : TickStep k₁ (.delivered 1 (some 0) (.handled 0)) k₂ :=
    tickStep (by decide) (by decide +kernel)
  have hfirst : TickStep k₂ (.delivered 0 (some 0) (.handled 0)) k₃ :=
    tickStep (by decide +kernel) (by decide +kernel)
  have hclear : TickStep k₃ (.hooked none) k₄ := .hooked rfl
  have hsecond : TickStep k₄ (.delivered 0 (some 0) (.handled 0)) k₅ :=
    tickStep (by decide +kernel) (by decide +kernel)
  have hrun : TickRun k events k₅ :=
    .cons hset (.cons hother (.cons hfirst (.cons hclear (.cons hsecond .nil))))
  have hlisted : k₅.processors.ids[1]? = some 3 := by decide +kernel
  have houtcome : outcome? 3 k₅ = some (.handled 0) := by decide +kernel
  clear_value k₅
  obtain ⟨hticks, hheard, -, -, hdeliveries, -, hnext⟩ := hrun.keepsTime timerAlone hfit
  obtain ⟨f', hrun'⟩ := exists_delivery houtcome
  obtain ⟨-, hnext⟩ := hnext 1 3 (Frame.forVector 0x20 0) _ ⟨k₅.hardware.1.1, .told 3, rfl⟩
    hlisted (Kernel.executes_of_told rfl) (by decide)
  obtain ⟨-, hacknowledges, hcounts, -, hquiet⟩ :=
    hnext _ _ _ hrun' (names_of_handled hrun') nofun
  refine ⟨timerAlone, hfit, k₅, hrun, hticks.trans ?_, hheard.trans ?_, hdeliveries.trans ?_,
    f', _, hrun', (hquiet (by decide)).1, hcounts, hacknowledges⟩
  · decide +kernel
  · rfl
  · decide +kernel

end TwoTimers

end Interrupts
