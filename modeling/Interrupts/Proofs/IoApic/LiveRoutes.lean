import Interrupts.Proofs.IoApic.Probing

/-!
# No half-written route is ever live

A pin is written in two halves, and between the two it holds half of the old entry and half of the
new one. That must not deliver anything, or else deliver what one of the two entries says. It works
because the high half, which is written first, has neither the mask bit nor anything but the
destination, and every entry that is ever enabled has the same destination.

So the invariant `IsWhole` holds not only between the calls but after every single access of every
call: each pin is masked, or holds the complete entry of an interrupt that was enabled.
-/

namespace Interrupts

open Sim (WindowEvent)

/-- **A change of a route.** -/
inductive RouteCall where
  | enable (irq vector : UInt8)
  | disable (irq : UInt8)
  deriving DecidableEq, Repr

namespace IoApic

variable {R : Type}

section Drive

variable {m : Type → Type} [Monad m] [RegisterBus R m] [Logger m] [MonadExceptOf Stop m]

/-- Change a route. -/
def perform (a : IoApic R) : RouteCall → m (Except IoApicError Unit)
  | .enable irq vector => a.enable irq vector
  | .disable irq => a.disable irq

/-- **Change routes**, one after the other. -/
def performAll (a : IoApic R) : List RouteCall → m (List (Except IoApicError Unit))
  | [] => pure []
  | call :: calls => do
    let reply ← a.perform call
    let replies ← a.performAll calls
    pure (reply :: replies)

end Drive

/-! ## Whole entries -/

/-- **An entry that one of these calls has composed for a pin.** -/
def Composed (a : IoApic R) (calls : List RouteCall) (pin : UInt32) (e : Redirection) : Prop :=
  ∃ irq vector, .enable irq vector ∈ calls ∧ a.pinOf (a.gsiOf irq) = .ok pin
    ∧ e = .route vector a.destination (a.polarityOf irq) (a.triggerOf irq)

/-- **Every pin is masked, or holds an entry that was composed for it.** -/
def IsWhole (a : IoApic R) (calls : List RouteCall) (f : RegisterFile) : Prop :=
  ∀ pin, pin < a.pins → (f.entry pin).isMasked = true ∨ a.Composed calls pin (f.entry pin)

variable {a : IoApic R} {calls calls' : List RouteCall} {pin : UInt32} {e e' : Redirection}
  {f : RegisterFile}

theorem Composed.mono (h : a.Composed calls pin e) (hsub : calls ⊆ calls') :
    a.Composed calls' pin e := by
  obtain ⟨irq, vector, hmem, hpin⟩ := h
  exact ⟨irq, vector, hsub hmem, hpin⟩

theorem IsWhole.mono (h : a.IsWhole calls f) (hsub : calls ⊆ calls') : a.IsWhole calls' f :=
  fun pin hpin => (h pin hpin).imp_right fun h => h.mono hsub

/-- Composed entries agree in their high halves. -/
theorem Composed.high_eq (h : a.Composed calls pin e) (h' : a.Composed calls' pin e') :
    e.high = e'.high := by
  obtain ⟨irq, vector, -, -, rfl⟩ := h
  obtain ⟨irq', vector', -, -, rfl⟩ := h'
  exact Redirection.high_route _ _ _ _ _ _ _

/-! ## The two halves -/

theorem toNat_lt_of_lt_pins (hn : a.pins.toNat ≤ 120) (h : pin < a.pins) : pin.toNat < 120 :=
  Nat.lt_of_lt_of_le h hn

/-- **The high half of a pin may be written** while the pin is masked, and otherwise only with what
it is already. -/
theorem IsWhole.write_high (hn : a.pins.toNat ≤ 120) (hf : a.IsWhole calls f) (hpin : pin < a.pins)
    {v : UInt32} (hv : a.Composed calls pin (f.entry pin) → v = (f.entry pin).high) :
    a.IsWhole calls (Function.update f (highRegister pin) v) := by
  intro pin' hpin'
  by_cases hsame : pin' = pin
  · subst hsame
    rw [RegisterFile.entry_update_high f v (toNat_lt_of_lt_pins hn hpin)]
    rcases hf pin' hpin with hmasked | hcomposed
    · left
      rw [Redirection.isMasked_ofHalves _ _ (f.entry pin').high, Redirection.ofHalves_low_high]
      exact hmasked
    · right
      rw [hv hcomposed, Redirection.ofHalves_low_high]
      exact hcomposed
  · rw [(f.entry_update_of_ne v (toNat_lt_of_lt_pins hn hpin) (toNat_lt_of_lt_pins hn hpin')
      hsame).1]
    exact hf pin' hpin'

/-- **A pin may be written** with a masked or composed entry of the same high half. -/
theorem IsWhole.pinWrites (hn : a.pins.toNat ≤ 120) (hf : a.IsWhole calls f) (hpin : pin < a.pins)
    (hhigh : a.Composed calls pin (f.entry pin) → e.high = (f.entry pin).high)
    (he : e.isMasked = true ∨ a.Composed calls pin e) {written : List WindowEvent}
    (hwritten : written <+: pinWrites pin e) : a.IsWhole calls (f.after written) := by
  have hwhole : a.IsWhole calls (f.after (IoApic.pinWrites pin e)) := by
    intro pin' hpin'
    by_cases hsame : pin' = pin
    · subst hsame
      rw [f.entry_after_pinWrites e (toNat_lt_of_lt_pins hn hpin)]
      exact he
    · rw [f.entry_after_pinWrites_of_ne e (toNat_lt_of_lt_pins hn hpin)
        (toNat_lt_of_lt_pins hn hpin') hsame]
      exact hf pin' hpin'
  -- Nothing is written yet, or the high half, or all.
  rcases List.prefix_cons_iff.mp hwritten with rfl | ⟨low, rfl, hlow⟩
  · exact hf
  · rcases List.prefix_cons_iff.mp hlow with rfl | ⟨rest, rfl, hrest⟩
    · exact hf.write_high hn hpin hhigh
    · cases List.prefix_nil.mp hrest
      exact hwhole

/-! ## Calls -/

section Run

variable {σ : Type} [RegisterBus R (EStateM Stop σ)] [Logger (EStateM Stop σ)] {w : Wiring R σ}
  {s : σ}

/-- **A computation runs, and this holds of the registers** before it, after it and between any two
of its accesses. -/
def Throughout (w : Wiring R σ) {α : Type} (P : RegisterFile → Prop) (x : EStateM Stop σ α)
    (s : σ) : Prop :=
  ∃ r es s', w.Runs x s r es s' ∧ ∀ written, written <+: es → P ((w.registers s).after written)

/-- A refusal makes no access. -/
theorem throughout_pure {α : Type} {P : RegisterFile → Prop} (h : w.ready s)
    (hP : P (w.registers s)) (r : α) : Throughout w P (pure r) s := by
  obtain ⟨s', hruns⟩ := w.runs_pure h r
  refine ⟨r, [], s', hruns, fun written hwritten => ?_⟩
  cases List.prefix_nil.mp hwritten
  exact hP

/-- **During a call, pins stay whole.** -/
theorem IsWhole.perform (ha : a.IsWired w) (h : w.ready s) (hf : a.IsWhole calls (w.registers s))
    (call : RouteCall) :
    Throughout w (a.IsWhole (calls ++ [call])) (a.perform call) s := by
  have hmore : a.IsWhole (calls ++ [call]) (w.registers s) :=
    hf.mono (List.subset_append_left _ _)
  cases call with
  | enable irq vector =>
    show Throughout w _ (a.enable irq vector) s
    cases hpin : a.pinOf (a.gsiOf irq) with
    | error err =>
      rw [enable_of_refused hpin]
      exact throughout_pure h hmore _
    | ok pin =>
      obtain ⟨s', hruns⟩ := runs_enable ha h hpin vector
      have hcomposed : a.Composed (calls ++ [.enable irq vector]) pin (a.entryFor irq vector) :=
        ⟨irq, vector, List.mem_append_right _ (List.mem_singleton_self _), hpin,
          a.entryFor_eq_route irq vector⟩
      exact ⟨_, _, s', hruns, fun written hwritten =>
        hmore.pinWrites ha.pins (pinOf_eq_ok.mp hpin).2.1 hcomposed.high_eq (.inr hcomposed)
          hwritten⟩
  | disable irq =>
    show Throughout w _ (a.disable irq) s
    cases hpin : a.pinOf (a.gsiOf irq) with
    | error err =>
      rw [disable_of_refused hpin]
      exact throughout_pure h hmore _
    | ok pin =>
      obtain ⟨s', hruns⟩ := runs_disable ha h hpin
      refine ⟨_, _, s', hruns, fun written hwritten => ?_⟩
      have hmasked : (((w.registers s).entry pin).withMasked true).isMasked = true :=
        Redirection.isMasked_withMasked _ true
      -- The two reads before the writes change nothing.
      rcases List.prefix_cons_iff.mp hwritten with rfl | ⟨rest, rfl, hrest⟩
      · exact hmore
      · rcases List.prefix_cons_iff.mp hrest with rfl | ⟨writes, rfl, hwrites⟩
        · exact hmore
        · have hpart : a.IsWhole _ ((w.registers s).after writes) :=
            hmore.pinWrites ha.pins (pinOf_eq_ok.mp hpin).2.1
              (fun _ => Redirection.high_withMasked _ true) (.inl hmasked) hwrites
          exact hpart

/-- **Between calls, pins are whole.** -/
theorem IsWhole.performAll (ha : a.IsWired w) (h : w.ready s) (hf : a.IsWhole calls (w.registers s))
    (more : List RouteCall) :
    ∃ replies es s', w.Runs (a.performAll more) s replies es s'
      ∧ a.IsWhole (calls ++ more) (w.registers s') := by
  induction more generalizing s calls with
  | nil =>
    obtain ⟨s', hruns⟩ := w.runs_pure h ([] : List (Except IoApicError Unit))
    refine ⟨_, _, s', hruns, ?_⟩
    rw [hruns.registers, List.append_nil]
    exact hf
  | cons call more ih =>
    obtain ⟨reply, es, s₁, hfirst, hduring⟩ := hf.perform ha h call
    have hafter : a.IsWhole (calls ++ [call]) (w.registers s₁) := by
      rw [hfirst.registers]
      exact hduring es List.prefix_rfl
    obtain ⟨replies, es', s₂, hrest, hwhole⟩ := ih hfirst.ready hafter
    rw [List.append_assoc, List.singleton_append] at hwhole
    exact ⟨_, _, s₂, hfirst.andThen (hrest.map _), hwhole⟩

end Run

/-! ## From a probe on -/

section Probe

variable {σ : Type} [RegisterBus R (EStateM Stop σ)] [Logger (EStateM Stop σ)] {w : Wiring R σ}
  {s s' : σ} {T : Type} [Acpi.PlatformTables T] {platform : T} {destination : UInt8}
  {map : Acpi.IoApicInfo → EStateM Stop σ (Except IoApicError R)}

/-- **No half-written route is ever live.** From a probe on, routes may be changed as often as one
likes: at any time, also between two accesses of a call, each pin is masked or holds exactly the
entry that one of the calls so far has composed for it, and a pin that is not masked delivers to the
processor that the probe was told. -/
theorem probe_keepsWhole (hmap : Maps w map) (h : w.ready s)
    (hprobe : probe platform destination map s = .ok (.ok a) s') (calls : List RouteCall)
    (call : RouteCall) :
    ∃ replies es s₁ reply es' s₂, w.Runs (a.performAll calls) s' replies es s₁
      ∧ w.Runs (a.perform call) s₁ reply es' s₂
      ∧ ∀ written, written <+: es' → ∀ pin, pin < a.pins →
        let e := ((w.registers s₁).after written).entry pin
        (e.isMasked = true ∨ a.Composed (calls ++ [call]) pin e)
          ∧ (e.isMasked = false → e.destination = destination) := by
  obtain ⟨⟨info, ha⟩, hruns⟩ := probe_eq_ok hmap h hprobe
  have hwired : a.IsWired w := ha ▸ isWired_probed platform info destination _
  have hpins : a.pins = pinsOfVersion (w.registers s versionRegister) := ha ▸ pins_probed _ _ _ _ _
  have hdestination : a.destination = destination := ha ▸ destination_probed _ _ _ _ _
  have hmasked : a.IsWhole [] (w.registers s') := by
    intro pin hpin
    left
    rw [hruns.registers, setUpAccesses, RegisterFile.after_read, ← hpins,
      entry_after_maskWrites_zero _ hwired.pins hpin]
    rfl
  obtain ⟨replies, es, s₁, hcalls, hwhole⟩ := hmasked.performAll hwired hruns.ready calls
  rw [List.nil_append] at hwhole
  obtain ⟨reply, es', s₂, hcall, hduring⟩ := hwhole.perform hwired hcalls.ready call
  refine ⟨replies, es, s₁, reply, es', s₂, hcalls, hcall, fun written hwritten pin hpin => ?_⟩
  have hentry := hduring written hwritten pin hpin
  refine ⟨hentry, fun hlive => ?_⟩
  rcases hentry with hmasked | ⟨irq, vector, -, -, hroute⟩
  · exact absurd (hlive.symm.trans hmasked) Bool.false_ne_true
  · rw [hroute, Redirection.destination_route, hdestination]

end Probe

end IoApic

namespace Sim.ProbeRig

open IoApic

/-- A live pin is given another vector, while the pin next to it is live as well. -/
theorem probe_keepsWhole_again :
    (Maps wiring map ∧ wiring.ready inUse)
      ∧ ∃ a s', IoApic.probe (m := BenchM ProbeRig) rerouted 5 map inUse = .ok (.ok a) s'
        ∧ a.pinOf (a.gsiOf 0) = .ok 2 ∧ 2 < a.pins
        ∧ ∃ replies es s₁ reply es' s₂,
          wiring.Runs (a.performAll [.enable 0 0x40, .enable 9 0x41]) s' replies es s₁
            ∧ wiring.Runs (a.perform (.enable 0 0x42)) s₁ reply es' s₂
            ∧ ∀ written, written <+: es' →
              let e := ((wiring.registers s₁).after written).entry 2
              (e.isMasked = true
                  ∨ a.Composed [.enable 0 0x40, .enable 9 0x41, .enable 0 0x42] 2 e)
                ∧ (e.isMasked = false → e.destination = 5) := by
  have hready : wiring.ready inUse := rfl
  have hview : probeView (fun a => (a.pins, a.gsiBase, a.gsiOf 0)) = some (4, 16, 18) := by
    decide +kernel
  obtain ⟨a, s', hprobe, hsees⟩ := exists_probe hview
  obtain ⟨hpins, hbase, hgsi⟩ : a.pins = 4 ∧ a.gsiBase = 16 ∧ a.gsiOf 0 = 18 := by
    simpa only [Prod.mk.injEq] using hsees
  have hpin : a.pinOf (a.gsiOf 0) = .ok 2 := by
    rw [pinOf_eq_ok, hpins, hbase, hgsi]
    decide
  have hlt : 2 < a.pins := hpins ▸ (by decide)
  obtain ⟨replies, es, s₁, reply, es', s₂, hcalls, hcall, hduring⟩ :=
    probe_keepsWhole maps_map hready hprobe [.enable 0 0x40, .enable 9 0x41] (.enable 0 0x42)
  exact ⟨⟨maps_map, hready⟩, a, s', hprobe, hpin, hlt, replies, es, s₁, reply, es', s₂, hcalls,
    hcall, fun written hwritten => hduring written hwritten 2 hlt⟩

end Sim.ProbeRig

end Interrupts
