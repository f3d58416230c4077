import Interrupts.Proofs.Kernel.Serving
import Interrupts.Proofs.Kernel.Watched

/-!
# Every delivery is acknowledged once

An interrupt that is not acknowledged blocks its line for good, and one acknowledgement too many
ends somebody else's delivery. Exceptions and the spurious vector are never acknowledged: on their
way no controller is sent any command, not even a question. Any other vector is, when its handlers
have run and whatever came of it, in the way of the controller in charge: the Local APIC by one
store to its end-of-interrupt register, the 8259 pair by a command to the master, and before it one
to the slave for the slave's lines.
-/

namespace Interrupts

open Boot

variable {X : Surroundings} [Behaviour X]

/-! ## The stages of a delivery -/

/-- The vectors between the exceptions and the spurious one are those of interrupts. -/
theorem Vectors.route_eq_irq_iff {v : UInt8} :
    Vectors.route v = .irq ↔ 32 ≤ v.toNat ∧ v.toNat ≤ 254 := by
  have hlt := v.toNat_lt
  have hspurious : (v == Vectors.spurious) = true ↔ v.toNat = 255 := by
    rw [beq_iff_eq, ← UInt8.toNat_inj]
    rfl
  unfold Vectors.route Vectors.exceptionCount
  by_cases hexception : v.toNat < 32
  · rw [if_pos hexception]
    exact ⟨fun h => (nomatch h), fun h => absurd h.1 (by omega)⟩
  · rw [if_neg hexception]
    by_cases h : (v == Vectors.spurious) = true
    · rw [if_pos h]
      have := hspurious.mp h
      exact ⟨fun h => (nomatch h), fun h => absurd h.2 (by omega)⟩
    · rw [if_neg h]
      have : v.toNat ≠ 255 := fun heq => h (hspurious.mpr heq)
      exact ⟨fun _ => ⟨by omega, by omega⟩, fun _ => rfl⟩

/-- **The stages of a delivery**: the executing processor is looked up, the controller in charge
names a line, the registry serves it, and the controller ends the delivery. -/
theorem dispatchIrq_stages {a : ActiveController X} {f f' : Frame} {k k' : Kernel X}
    {outcome : DispatchOutcome} (hactive : k.active = some a)
    (h : dispatchIrq f k = .ok (outcome, f') k') :
    ∃ cpu k₀ irq? k₁ k₂ k₃ r, currentCpu k = .ok cpu k₀
      ∧ Controller.currentIrq (m := Boot X) a f.vectorByte k₀ = .ok irq? k₁
      ∧ k₀.registry.serveNamed (m := Boot X) a f.vectorByte irq? f cpu k₁
        = .ok (outcome, f', r) k₂
      ∧ Controller.eoi (m := Boot X) a f.vectorByte irq? k₂ = .ok () k₃
      ∧ k' = { k₃ with registry := r } := by
  obtain ⟨_, _, ⟨⟩, h⟩ := bind_eq_ok.mp h
  rw [hactive] at h
  obtain ⟨cpu, k₀, hcpu, h⟩ := bind_eq_ok.mp h
  -- The dispatcher runs on a copy of the registry, which is put back when it is done.
  obtain ⟨_, _, ⟨⟩, h⟩ := bind_eq_ok.mp h
  obtain ⟨⟨answer, r⟩, k₃, hinner, h⟩ := bind_eq_ok.mp h
  obtain ⟨_, _, ⟨⟩, h⟩ := bind_eq_ok.mp h
  obtain ⟨rfl, rfl⟩ := pure_eq_ok.mp h
  obtain ⟨⟨outcome', f₂, r'⟩, _, hinner, hpure⟩ := bind_eq_ok.mp hinner
  obtain ⟨heq, rfl⟩ := pure_eq_ok.mp hpure
  cases heq
  obtain ⟨irq?, k₁, hirq, hinner⟩ := bind_eq_ok.mp hinner
  obtain ⟨_, k₂, hserve, hinner⟩ := bind_eq_ok.mp hinner
  obtain ⟨_, k₅, heoi, hpure⟩ := bind_eq_ok.mp hinner
  obtain ⟨rfl, rfl⟩ := pure_eq_ok.mp hpure
  exact ⟨cpu, k₀, irq?, k₁, k₂, k₅, r, hcpu, hirq, hserve, heoi, rfl⟩

/-- **The handlers have run**: the controller in charge named a line or none, and the registry has
served it, with whatever outcome. What is left is to end the delivery. -/
def HandlersRan (a : ActiveController X) (f : Frame) (k : Kernel X) (irq? : Option UInt8)
    (f' : Frame) (k' : Kernel X) : Prop :=
  ∃ cpu k₀ k₁ outcome r, currentCpu k = .ok cpu k₀
    ∧ Controller.currentIrq (m := Boot X) a f.vectorByte k₀ = .ok irq? k₁
    ∧ k₀.registry.serveNamed (m := Boot X) a f.vectorByte irq? f cpu k₁
      = .ok (outcome, f', r) k'

/-- **The entry path ends a delivery when the handlers have run**, and does nothing to the hardware
after that. -/
theorem enter_ends {a : ActiveController X} {f f' : Frame} {k k' : Kernel X}
    (hroute : Vectors.route f.vectorByte = .irq) (hactive : k.active = some a)
    (h : enter f k = .ok f' k') :
    ∃ irq? k₂ k₃, HandlersRan a f k irq? f' k₂
      ∧ Controller.eoi (m := Boot X) a f.vectorByte irq? k₂ = .ok () k₃
      ∧ k'.hardware = k₃.hardware := by
  unfold enter at h
  rw [hroute] at h
  obtain ⟨⟨outcome, f₁⟩, k₄, hdispatch, h⟩ := bind_eq_ok.mp h
  obtain ⟨rfl, rfl⟩ := pure_eq_ok.mp h
  obtain ⟨cpu, k₀, irq?, k₁, k₂, k₃, r, hcpu, hirq, hserve, heoi, rfl⟩ :=
    dispatchIrq_stages hactive hdispatch
  exact ⟨irq?, k₂, k₃, ⟨cpu, k₀, k₁, outcome, r, hcpu, hirq, hserve⟩, heoi, rfl⟩

/-- **What serving a line comes to**, and what it makes of the registry. -/
theorem runChain_eq_ok {r r' : Registry (KernelHandler X)} {irq vector : UInt8} {f f' : Frame}
    {cpu : Nat} {outcome : DispatchOutcome} {k k' : Kernel X}
    (h : r.runChain (m := Boot X) irq vector f cpu k = .ok (outcome, f', r') k') :
    outcome = .handled irq ∧ r' = r.countDelivery irq
      ∨ outcome = .unhandled irq ∧ r' = (r.countDelivery irq).countUnhandled irq := by
  obtain ⟨⟨verdict, left⟩, k₁, -, h⟩ := bind_eq_ok.mp h
  cases verdict with
  | handled =>
    obtain ⟨⟨⟩, -⟩ := pure_eq_ok.mp h
    exact .inl ⟨rfl, rfl⟩
  | notMine =>
    dsimp only at h
    split at h
    · obtain ⟨_, _, -, hpure⟩ := bind_eq_ok.mp h
      obtain ⟨⟨⟩, -⟩ := pure_eq_ok.mp hpure
      exact .inr ⟨rfl, rfl⟩
    · obtain ⟨⟨⟩, -⟩ := pure_eq_ok.mp h
      exact .inr ⟨rfl, rfl⟩

/-- Nothing is acknowledged while the handlers run, and the vectors of the 8259 pair stay. To find
the line, its chips are asked which lines are in service, and that is no acknowledgement. -/
theorem HandlersRan.silently {a : ActiveController (Watched X)} {f f' : Frame}
    {k k' : Kernel (Watched X)} {irq? : Option UInt8} (hactive : k.active = some a)
    (h : HandlersRan a f k irq? f' k') :
    Silently k.hardware k'.hardware ∧ k'.pic = k.pic := by
  obtain ⟨cpu, k₀, k₁, outcome, r, hcpu, hirq, hserve⟩ := h
  have hselect : ∀ port, (silent X fun _ => False).mayWrite port Pic.readInService := fun _ h =>
    h.2 rfl
  have hcpu' := (Conduct.obeys_currentCpu (c := silent X fun _ => False)).returns hcpu
  have hirq' := (Conduct.obeys_currentIrq hselect (hcpu'.active.trans hactive) _).returns hirq
  have hserve' :=
    (Conduct.obeys_serveNamed (c := silent X fun _ => False) (.inl trivial) a _ f
      cpu).returns hserve
  have hkeeps := (hcpu'.trans hirq').trans hserve'
  exact ⟨hkeeps.hardware, hkeeps.pic⟩

/-! ## Ending a delivery -/

/-- **What ends a delivery of the 8259 pair.** A line of the slave was a delivery of both chips,
and a spurious one of the slave still one of the master. -/
def Pic.endings {P : Type} (p : Pic P) (vector : UInt8) : Option UInt8 → List HardwareEvent
  | some irq =>
    if 8 ≤ irq then [.out Pic.slaveCommand Pic.eoiCommand, .out Pic.masterCommand Pic.eoiCommand]
    else [.out Pic.masterCommand Pic.eoiCommand]
  | none =>
    if ∃ line, p.lineForVector vector = some line ∧ 8 ≤ line then
      [.out Pic.masterCommand Pic.eoiCommand]
    else []

/-- A byte for a port is one event. -/
theorem write8_events {p : MachinePorts} {port : UInt16} {value : UInt8} {u : Unit}
    {k k' : Kernel (Watched X)}
    (h : PortBus.write8 (m := Boot (Watched X)) p port value k = .ok u k') :
    k'.events = k.events ++ [.out port value] := by
  cases h
  rfl

/-- **The 8259 pair is told what `Pic.endings` says, and nothing else**: both chips that a line of
the slave ends on them, the slave first, and when no line was named the master alone, for the
request of a spurious slave. -/
theorem acknowledge_pic_events {vector : UInt8} {irq? : Option UInt8} {u : Unit}
    {k k' : Kernel (Watched X)}
    (h : Controller.eoi (m := Boot (Watched X)) (.pic : ActiveController (Watched X)) vector irq? k
      = .ok u k') :
    k'.events = k.events ++ k.pic.endings vector irq? := by
  obtain ⟨_, _, ⟨⟩, h⟩ := bind_eq_ok.mp h
  cases irq? with
  | some irq =>
    unfold Pic.acknowledge Pic.endOfInterrupt at h
    unfold Pic.endings
    -- A line of the slave was a delivery of both chips.
    by_cases hslave : 8 ≤ irq
    · dsimp only at h ⊢
      rw [if_pos hslave] at h ⊢
      obtain ⟨_, k₁, hfirst, hsecond⟩ := bind_eq_ok.mp h
      rw [write8_events hsecond, write8_events hfirst, List.append_assoc]
      rfl
    · dsimp only at h ⊢
      rw [if_neg hslave] at h ⊢
      exact write8_events h
  | none =>
    unfold Pic.acknowledge at h
    unfold Pic.endings
    dsimp only at h ⊢
    -- A spurious delivery of the master put nothing in service; one of the slave did so at the
    -- master.
    cases hline : k.pic.lineForVector vector with
    | none =>
      rw [hline] at h
      cases h
      rw [if_neg fun ⟨_, h, _⟩ => (nomatch h), List.append_nil]
    | some line =>
      rw [hline] at h
      dsimp only at h
      by_cases hslave : 8 ≤ line
      · rw [if_pos hslave] at h
        rw [if_pos ⟨line, rfl, hslave⟩]
        exact write8_events h
      · rw [if_neg hslave] at h
        cases h
        rw [if_neg fun ⟨_, h, hle⟩ => hslave (Option.some.inj h ▸ hle), List.append_nil]

/-- **The Local APIC gets one store of zero**, whatever the line, if the vector is not the spurious
one. -/
theorem acknowledge_apic_events {c : ApicController Window Window} {vector : UInt8}
    {irq? : Option UInt8} {u : Unit} {k k' : Kernel (Watched X)}
    (hvector : vector ≠ LocalApic.spuriousVector)
    (h : Controller.eoi (m := Boot (Watched X)) (.apic c : ActiveController (Watched X)) vector irq?
      k = .ok u k') :
    k'.events
      = k.events ++ [.store (c.localApic.window.virtBase + LocalApic.endOfInterrupt) 0] := by
  change (c.acknowledge (m := Boot (Watched X)) vector irq?) k = .ok u k' at h
  unfold ApicController.acknowledge at h
  rw [if_pos (bne_iff_ne.mpr hvector)] at h
  obtain ⟨address, _, haddress, hstore⟩ := bind_eq_ok.mp h
  obtain ⟨rfl, rfl⟩ := Window.writeAddress_eq_ok haddress
  cases hstore
  rfl

/-- **What only mishaps stop returns on a calm kernel.** -/
theorem Kernel.Calm.returns {α : Type} {x : Boot X α} {k : Kernel X} (hcalm : k.Calm)
    (h : (Conduct.free X True fun _ => False).discipline.Obeys k x) : ∃ a k', x k = .ok a k' := by
  cases hrun : x k with
  | ok a k' => exact ⟨a, k', rfl⟩
  | error e k' =>
    obtain ⟨-, ⟨hmay, -⟩ | hnever⟩ := h.stops hrun
    · exact absurd ⟨trivial, hcalm⟩ hmay
    · exact hnever.elim

/-- Only mishaps stop an interrupt, and they do not happen to calm kernels. -/
theorem Kernel.Calm.enter_returns {f : Frame} {k : Kernel X} (hcalm : k.Calm)
    (hlow : 32 ≤ f.vectorByte.toNat) : ∃ f' k', enter f k = .ok f' k' := by
  refine hcalm.returns ?_
  by_cases hroute : Vectors.route f.vectorByte = .irq
  · unfold enter
    rw [hroute]
    exact (Conduct.obeys_dispatchIrq trivial (fun _ => trivial) (fun _ => trivial)
      (fun _ _ => trivial) f).bind fun _ _ => .pure _
  · refine Conduct.obeys_enter_of_idle (fun hexception => ?_) (.inl hroute)
    unfold Vectors.route at hexception
    rw [if_neg (by unfold Vectors.exceptionCount; omega)] at hexception
    split at hexception <;> exact nomatch hexception

/-- **Every delivery is acknowledged once**, on every vector, whatever the registry holds, whatever
handlers do and in whatever state the hardware is.

For an exception, for the spurious vector, and while no controller is in charge, the kernel sends no
command at all to an interrupt controller, also when it stops. Otherwise it may ask the chips for
the lines in service, and sends no other command until the handlers have run; then the Local APIC
gets the one store to its end-of-interrupt register, or the 8259 pair the commands of
`Pic.endings`, and that is all that is still done. Interrupts always return on a calm kernel. -/
theorem enter_acknowledges (f : Frame) (k : Kernel (Watched X)) :
    (¬(32 ≤ f.vectorByte.toNat ∧ f.vectorByte.toNat ≤ 254) ∨ k.active = none →
      (∀ f' k', enter f k = .ok f' k' → Without HardwareEvent.Commands k.hardware k'.hardware)
        ∧ ∀ e k', enter f k = .error e k' → Without HardwareEvent.Commands k.hardware k'.hardware)
      ∧ (32 ≤ f.vectorByte.toNat → f.vectorByte.toNat ≤ 254 → ∀ a, k.active = some a →
        ∀ f' k', enter f k = .ok f' k' → ∃ irq? k₁, HandlersRan a f k irq? f' k₁
          ∧ Silently k.hardware k₁.hardware
          ∧ (∀ c, a = .apic c → k'.events
              = k₁.events ++ [.store (c.localApic.window.virtBase + LocalApic.endOfInterrupt) 0])
          ∧ (a = .pic → k'.events = k₁.events ++ k.pic.endings f.vectorByte irq?))
      ∧ (32 ≤ f.vectorByte.toNat → k.Calm → ∃ f' k', enter f k = .ok f' k') := by
  refine ⟨fun hidle => ?_, fun hlow hhigh a hactive f' k' hrun => ?_, fun hlow hcalm => ?_⟩
  -- Without a delivery the path leads to the handlers of exceptions or nowhere, and the only bytes
  -- that leave the kernel are those of its log.
  · have hobeys : (uncommanding X fun _ => True).discipline.Obeys k (enter f) :=
      Conduct.obeys_enter_of_idle (fun _ _ => trivial)
        (hidle.imp_left fun h => fun hroute => h (Vectors.route_eq_irq_iff.mp hroute))
    exact ⟨fun f' k' hrun => (hobeys.returns hrun).hardware,
      fun e k' hrun => (hobeys.stops hrun).1.hardware⟩
  · obtain ⟨irq?, k₁, k₂, hran, heoi, hhardware⟩ :=
      enter_ends (Vectors.route_eq_irq_iff.mpr ⟨hlow, hhigh⟩) hactive hrun
    obtain ⟨hsilent, hpic⟩ := hran.silently hactive
    have hevents : k'.events = k₂.events := congrArg Prod.snd hhardware
    refine ⟨irq?, k₁, hran, hsilent, ?_, ?_⟩
    · rintro c rfl
      have hvector : f.vectorByte ≠ LocalApic.spuriousVector := fun h =>
        absurd (h ▸ hhigh) (by decide)
      rw [hevents, acknowledge_apic_events hvector heoi]
    · rintro rfl
      rw [hevents, acknowledge_pic_events heoi, hpic]
  · exact hcalm.enter_returns hlow

/-- A delivery on line 1 of the 8259 pair that nobody claims: the chips are asked for the lines in
service, and when the handlers have run the master is told that the delivery is over. A spurious
delivery on the same kernel reaches neither chip. -/
theorem enter_acknowledges_keyboard :
    let k : Kernel (Watched Still) := { hardware := ((), []), active := some .pic }
    let f := Frame.forVector 0x21 0
    (32 ≤ f.vectorByte.toNat ∧ f.vectorByte.toNat ≤ 254 ∧ k.active = some .pic ∧ k.Calm)
      ∧ (∃ f' k' irq? k₁, enter f k = .ok f' k'
        ∧ k'.events = [.out 0x20 0x0b, .out 0xa0 0x0b, .out 0x20 0x20]
        ∧ HandlersRan .pic f k irq? f' k₁ ∧ Silently k.hardware k₁.hardware
        ∧ k'.events = k₁.events ++ k.pic.endings f.vectorByte irq?)
      ∧ ∃ f' k', enter (.forVector 0xff 0) k = .ok f' k'
        ∧ Without HardwareEvent.Commands k.hardware k'.hardware := by
  intro k f
  have hcalm : k.Calm := ⟨nofun, nofun, nofun⟩
  have hevents : (match enter f k with | .ok _ k' => k'.events | .error _ k' => k'.events)
      = [.out 0x20 0x0b, .out 0xa0 0x0b, .out 0x20 0x20] := by decide +kernel
  obtain ⟨-, hends, hreturns⟩ := enter_acknowledges (X := Still) f k
  obtain ⟨f', k', hrun⟩ := hreturns (by decide) hcalm
  obtain ⟨irq?, k₁, hran, hsilent, -, hpic⟩ := hends (by decide) (by decide) .pic rfl f' k' hrun
  rw [hrun] at hevents
  -- The spurious vector is none of the vectors whose deliveries are acknowledged.
  obtain ⟨hidle, -, hreturns'⟩ := enter_acknowledges (X := Still) (.forVector 0xff 0) k
  obtain ⟨f₂, k₂, hrun₂⟩ := hreturns' (by decide) hcalm
  exact ⟨⟨by decide, by decide, rfl, hcalm⟩,
    ⟨f', k', irq?, k₁, hrun, hevents, hran, hsilent, hpic rfl⟩,
    f₂, k₂, hrun₂, (hidle (.inl (by decide))).1 f₂ k₂ hrun₂⟩

end Interrupts
