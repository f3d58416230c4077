import Interrupts.ApicController
import Interrupts.Proofs.Config.CommandLine
import Interrupts.Proofs.IoApic.Probing
import Interrupts.Proofs.Kernel.Acknowledge
import Interrupts.Proofs.LocalApic.InService
import Interrupts.Proofs.Registry.Chains
import Interrupts.Sim.Lines

/-!
# Lines of the APICs and their vectors

Line `l` of the two APICs is delivered on the vector `irqBase + l`. However many pins there are, the
lines end where the vectors below the spurious one do, so this is always a vector of the registry;
and with the first vector behind the exceptions, the registry has a line for each of them. A pin
that is unmasked for a line gets the vector of the line; when this vector is in service, the line is
found again, and its chain is asked; and a vector that is not one of the controller's leads to no
line.
-/

namespace Interrupts

variable {L I σ : Type} [RegisterBus L (EStateM Stop σ)] [RegisterBus I (EStateM Stop σ)]
  [Logger (EStateM Stop σ)]

/-! ## Vectors -/

namespace ApicController

variable {c : ApicController L I} {l l' v : UInt8}

/-- There are never more lines than vectors from the base to the spurious one. -/
theorem lines_le (c : ApicController L I) : c.lines ≤ 255 - c.irqBase.toNat :=
  Nat.min_le_right _ _

/-- So the vector of a line does not wrap, and does not reach the spurious one. -/
theorem toNat_irqBase_add (hl : l.toNat < c.lines) :
    (c.irqBase + l).toNat = c.irqBase.toNat + l.toNat ∧ (c.irqBase + l).toNat ≤ 0xfe := by
  have hle := c.lines_le
  have hsum : (c.irqBase + l).toNat = c.irqBase.toNat + l.toNat := by
    rw [UInt8.toNat_add]
    exact Nat.mod_eq_of_lt (by omega)
  exact ⟨hsum, by omega⟩

/-- A line of the controller is a line of the registry, since the table holds as many as there are
vectors above the exceptions. -/
theorem lt_lineCount (hbase : 0x20 ≤ c.irqBase.toNat) (hl : l.toNat < c.lines) :
    l.toNat < Registry.lineCount := by
  have hle := c.lines_le
  unfold Registry.lineCount
  omega

/-- The line of the vector of a line. -/
theorem ofNat_sub_irqBase (hl : l.toNat < c.lines) :
    UInt8.ofNat ((c.irqBase + l).toNat - c.irqBase.toNat) = l := by
  rw [(toNat_irqBase_add hl).1, Nat.add_sub_cancel_left, UInt8.ofNat_toNat]

theorem irqBase_add_injective (hl : l.toNat < c.lines) (hl' : l'.toNat < c.lines)
    (h : c.irqBase + l' = c.irqBase + l) : l' = l := by
  rw [← ofNat_sub_irqBase hl, ← h, ofNat_sub_irqBase hl']

/-! ## Unmasking -/

omit [RegisterBus L (EStateM Stop σ)] in
/-- **Unmasking a line** asks the I/O APIC to deliver it on its vector. When it accepts, it says so in
the entry of the line's pin; when it refuses, only a line is logged. -/
theorem unmaskLine_leaves {w : Wiring I σ} {s : σ} (hc : c.ioApic.IsWired w) (h : w.ready s)
    (l : UInt8) :
    ∃ reply s₁ s₂, c.ioApic.enable (m := EStateM Stop σ) l (c.irqBase + l) s = .ok reply s₁
      ∧ c.unmaskLine (m := EStateM Stop σ) l s = .ok () s₂ ∧ w.ready s₂
      ∧ (reply = .ok () → ∃ pin, c.ioApic.pinOf (c.ioApic.gsiOf l) = .ok pin
        ∧ ((w.registers s₂).entry pin).vector = c.irqBase + l
        ∧ ((w.registers s₂).entry pin).isMasked = false) := by
  unfold unmaskLine
  cases hpin : c.ioApic.pinOf (c.ioApic.gsiOf l) with
  | error e =>
    have hrefused : c.ioApic.enable (m := EStateM Stop σ) l (c.irqBase + l) s
        = .ok (.error e) s := by
      rw [IoApic.enable_of_refused hpin]
      rfl
    obtain ⟨s₂, hlog⟩ := w.runs_log h .warn
      s!"IRQ: Cannot unmask line {l.toNat}: {e.describe}"
    exact ⟨.error e, s, s₂, hrefused, (bind_of_ok hrefused).trans hlog.run, hlog.ready, nofun⟩
  | ok pin =>
    obtain ⟨s₁, henable⟩ := IoApic.runs_enable hc h hpin (c.irqBase + l)
    have hlt := Nat.lt_of_lt_of_le (IoApic.pinOf_eq_ok.mp hpin).2.1 hc.pins
    refine ⟨.ok (), s₁, s₁, henable.run, bind_of_ok henable.run, henable.ready, fun _ =>
      ⟨pin, rfl, ?_⟩⟩
    rw [henable.registers, RegisterFile.entry_after_pinWrites _ _ hlt, IoApic.entryFor_eq_route]
    exact ⟨Redirection.vector_route _ _ _ _, Redirection.isMasked_route _ _ _ _⟩

/-! ## The registry -/

section Registry

variable {H : Type} {s s' : σ} (r : Registry H)

/-- **The registry unmasks every line of the controller**: it has this line, too. -/
theorem registry_unmaskLine (hbase : 0x20 ≤ c.irqBase.toNat) (hl : l.toNat < c.lines) :
    r.unmaskLine (m := EStateM Stop σ) c l = (do
      c.unmaskLine l
      pure (.ok (), r.rearm l) : EStateM Stop σ (Except IrqError Unit × Registry H)) := by
  obtain ⟨entry, hentry⟩ := r.line?_of_lt (lt_lineCount hbase hl)
  unfold Registry.unmaskLine
  rw [show Controller.lineCount c = (pure c.lines : EStateM Stop σ Nat) from rfl, pure_bind,
    if_neg (Nat.not_le_of_lt hl), hentry]
  rfl

omit [RegisterBus L (EStateM Stop σ)] [RegisterBus I (EStateM Stop σ)] in
/-- The chain of a line claims a delivery on this line or does not. -/
theorem runChain_outcome [LineHandler H (EStateM Stop σ)] {f f' : Frame} {cpu : Nat}
    {outcome : DispatchOutcome} {r' : Registry H}
    (h : r.runChain (m := EStateM Stop σ) l v f cpu s = .ok (outcome, f', r') s') :
    outcome = .handled l ∨ outcome = .unhandled l := by
  obtain ⟨⟨verdict, f₁⟩, s₁, -, h⟩ := bind_eq_ok.mp h
  cases verdict with
  | handled => exact .inl (congrArg Prod.fst (pure_eq_ok.mp h).1).symm
  | notMine =>
    dsimp only at h
    split at h
    · obtain ⟨_, _, -, h⟩ := bind_eq_ok.mp h
      exact .inr (congrArg Prod.fst (pure_eq_ok.mp h).1).symm
    · exact .inr (congrArg Prod.fst (pure_eq_ok.mp h).1).symm

/-- **A delivery on a line of the controller** is served by the chain of the line, and then ended. -/
theorem registry_dispatch [LineHandler H (EStateM Stop σ)] (hbase : 0x20 ≤ c.irqBase.toNat)
    (hl : l.toNat < c.lines)
    (hirq : c.currentIrq (m := EStateM Stop σ) v s = .ok (some l) s') (f : Frame) (cpu : Nat) :
    r.dispatch (m := EStateM Stop σ) c v f cpu s = (do
      let result ← r.runChain l v f cpu
      c.acknowledge v (some l)
      pure result : EStateM Stop σ (DispatchOutcome × Frame × Registry H)) s' := by
  -- the line that the controller names is below its own line count, so nothing is refused
  have hserve : r.serveNamed (m := EStateM Stop σ) c v (some l) f cpu = r.runChain l v f cpu := by
    have hcount := lt_lineCount hbase hl
    unfold Registry.serveNamed
    dsimp only
    rw [show Controller.lineCount c = (pure c.lines : EStateM Stop σ Nat) from rfl, pure_bind,
      if_neg (by omega)]
  have hnamed : Controller.currentIrq (m := EStateM Stop σ) c v s = .ok (some l) s' := hirq
  unfold Registry.dispatch
  rw [bind_of_ok hnamed, hserve]
  rfl

end Registry

end ApicController

/-! ## The round trip -/

section RoundTrip

open IoApic

variable {w : Wiring I σ} {s s' : σ} {T : Type} [Acpi.PlatformTables T] {platform : T}
  {destination : UInt8} {map : Acpi.IoApicInfo → EStateM Stop σ (Except IoApicError I)}
  {a : IoApic I}

/-- **Lines and vectors of the APICs correspond**, for every base that a command line chooses and
every I/O APIC that a probe answers. The vector of a line is the base plus the line, without
wrapping; it is routed to the registry, and belongs to no other line. The registry never refuses to
unmask a line, and when the I/O APIC accepts it, its pin is unmasked with this vector. While this
vector alone is in service, the line is named, and a delivery is served by the chain of the line,
which exists. While a vector alone is in service that is not one of the controller's, no line is
named. -/
theorem lines_roundTrip (hmap : Maps w map) (h : w.ready s)
    (hprobe : probe platform destination map s = .ok (.ok a) s') (localApic : LocalApic L)
    (line : Option String) :
    let c : ApicController L I :=
      { localApic, ioApic := a, irqBase := (Config.ofCommandLine line).masterBase }
    (∀ l : UInt8, l.toNat < c.lines →
      ((c.irqBase + l).toNat = c.irqBase.toNat + l.toNat ∧ 0x20 ≤ (c.irqBase + l).toNat
        ∧ (c.irqBase + l).toNat ≤ 0xfe ∧ Vectors.route (c.irqBase + l) = .irq
        ∧ ∀ l' : UInt8, l'.toNat < c.lines → c.irqBase + l' = c.irqBase + l → l' = l)
      ∧ (∀ {H : Type} (r : Registry H) (s₁ : σ), w.ready s₁ → ∃ reply s₂ r' s₃,
        a.enable (m := EStateM Stop σ) l (c.irqBase + l) s₁ = .ok reply s₂
          ∧ r.unmaskLine (m := EStateM Stop σ) c l s₁ = .ok (.ok (), r') s₃
          ∧ (reply = .ok () → ∃ pin, a.pinOf (a.gsiOf l) = .ok pin
            ∧ ((w.registers s₃).entry pin).vector = c.irqBase + l
            ∧ ((w.registers s₃).entry pin).isMasked = false))
      ∧ ∀ (words : Nat → UInt32) (here : σ → Prop), localApic.ShowsService words here →
        LocalApic.OnlyVector words (c.irqBase + l) → ∀ s₁, here s₁ → ∃ s₂, here s₂
          ∧ c.currentIrq (m := EStateM Stop σ) (c.irqBase + l) s₁ = .ok (some l) s₂
          ∧ ∀ {H : Type} [LineHandler H (EStateM Stop σ)] (r : Registry H) (f : Frame) (cpu : Nat),
            (∃ entry, r.line? l = some entry ∧ r.chain l = entry.chain)
              ∧ r.dispatch (m := EStateM Stop σ) c (c.irqBase + l) f cpu s₁ = (do
                let result ← r.runChain l (c.irqBase + l) f cpu
                c.acknowledge (c.irqBase + l) (some l)
                pure result : EStateM Stop σ (DispatchOutcome × Frame × Registry H)) s₂
              ∧ ∀ outcome f' r' s₃, r.dispatch (m := EStateM Stop σ) c (c.irqBase + l) f cpu s₁
                = .ok (outcome, f', r') s₃ → outcome = .handled l ∨ outcome = .unhandled l)
      ∧ ∀ (words : Nat → UInt32) (here : σ → Prop) (v v' : UInt8),
        localApic.ShowsService words here → LocalApic.OnlyVector words v →
        ¬(c.irqBase.toNat ≤ v.toNat ∧ v.toNat < c.irqBase.toNat + c.lines) →
        ∀ s₁, here s₁ → ∃ s₂, here s₂
          ∧ c.currentIrq (m := EStateM Stop σ) v' s₁ = .ok none s₂ := by
  intro c
  obtain ⟨⟨info, ha⟩, -⟩ := probe_eq_ok hmap h hprobe
  have hwired : a.IsWired w := ha ▸ isWired_probed platform info destination _
  have hbase : 0x20 ≤ c.irqBase.toNat := (Config.isSound_ofCommandLine line).masterBase.1
  refine ⟨fun l hl => ⟨?_, fun r s₁ hready => ?_, fun words here hshows honly s₁ hs₁ => ?_⟩,
    fun words here v v' hshows honly hout s₁ hs₁ => ?_⟩
  · obtain ⟨hsum, hle⟩ := c.toNat_irqBase_add hl
    have hlow : 0x20 ≤ (c.irqBase + l).toNat := by omega
    exact ⟨hsum, hlow, hle, Vectors.route_eq_irq_iff.mpr ⟨hlow, hle⟩,
      fun l' hl' heq => c.irqBase_add_injective hl hl' heq⟩
  · obtain ⟨reply, s₂, s₃, henable, hunmask, -, hentry⟩ :=
      c.unmaskLine_leaves hwired hready l
    refine ⟨reply, s₂, r.rearm l, s₃, henable, ?_, hentry⟩
    rw [c.registry_unmaskLine r hbase hl]
    exact bind_of_ok hunmask
  · obtain ⟨s₂, hs₂, hrun⟩ := hshows.inService_of_only honly c.irqBase c.lines hs₁
    obtain ⟨hsum, -⟩ := c.toNat_irqBase_add hl
    -- the vector of the line is in the range, and taking the base away gives the line back
    rw [if_pos (by omega), c.ofNat_sub_irqBase hl] at hrun
    have hirq : c.currentIrq (m := EStateM Stop σ) (c.irqBase + l) s₁ = .ok (some l) s₂ := hrun
    refine ⟨s₂, hs₂, hirq, fun r f cpu => ?_⟩
    have hdispatch := c.registry_dispatch r hbase hl hirq f cpu
    obtain ⟨entry, hentry⟩ := r.line?_of_lt (c.lt_lineCount hbase hl)
    refine ⟨⟨entry, hentry, r.chain_of_line? hentry⟩, hdispatch, ?_⟩
    intro outcome f' r' s₃ hserved
    rw [hdispatch] at hserved
    obtain ⟨result, s₄, hchain, hserved⟩ := bind_eq_ok.mp hserved
    obtain ⟨_, _, -, hserved⟩ := bind_eq_ok.mp hserved
    obtain ⟨rfl, -⟩ := pure_eq_ok.mp hserved
    exact ApicController.runChain_outcome r hchain
  · obtain ⟨s₂, hs₂, hrun⟩ := hshows.inService_of_only honly c.irqBase c.lines hs₁
    rw [if_neg (by omega)] at hrun
    exact ⟨s₂, hs₂, hrun⟩

end RoundTrip

namespace Sim.LineRig

open IoApic

/-- **How a rig has the window of its I/O APIC**: as long as a device answers. -/
def wiring : Wiring (Socket LineRig SelectWindow) (Bench LineRig) where
  handle := windowSocket
  window b := b.device.window
  ready b := b.device.window.floating = false
  answers h := h
  read offset h := ⟨_, (SelectWindow.floating_read offset _).trans h, rfl, rfl⟩
  write offset v h := ⟨_, (SelectWindow.floating_write offset v _).trans h, rfl, rfl⟩
  line := by
    intro b level text h
    exact ⟨{ b with lines := b.lines.push { level, text } }, h, rfl, rfl⟩

theorem maps_pure : Maps wiring fun _ => pure (.ok windowSocket) := by
  intro info b h
  exact ⟨_, b, ⟨rfl, h, (List.append_nil _).symm, rfl⟩, fun _ heq => (Except.ok.inj heq).symm⟩

/-- A rig whose page shows one vector in service, and whose window has a controller of four pins. -/
def serving (v : UInt8) : Bench LineRig where
  device :=
    { window := ProbeRig.inUse.device.window
      page := (({} : RegisterPage).preset
        (LocalApic.serviceRegister (v.toNat / 32)) (1 <<< UInt32.ofNat (v.toNat % 32))) }

/-- The words of the vectors in service on this rig. -/
def served (v : UInt8) (i : Nat) : UInt32 :=
  (serving v).device.page.value (LocalApic.serviceRegister i)

/-- The Local APIC of a rig. -/
def localApic : LocalApic (Socket LineRig RegisterPage) :=
  { window := pageSocket, physBase := 0 }

/-- A rig shows the words of its page for as long as nothing is written there. -/
theorem showsService_page (page : RegisterPage) :
    localApic.ShowsService (fun i => page.value (LocalApic.serviceRegister i))
      fun b : Bench LineRig => b.device.page.values = page.values := by
  intro b hb i hi
  -- the in-service registers lie clear of the command register, the only one whose read differs
  have hcommand : ∀ i < LocalApic.serviceWords, LocalApic.serviceRegister i ≠ 0x300 := by decide
  have hread : b.device.page.read (LocalApic.serviceRegister i)
      = (page.value (LocalApic.serviceRegister i),
          { b.device.page with reads := b.device.page.reads + 1 }) := by
    unfold RegisterPage.read RegisterPage.value
    dsimp only
    rw [if_neg (hcommand i hi), hb]
  refine ⟨{ b with device := { b.device with
    page := { b.device.page with reads := b.device.page.reads + 1 } } }, hb, ?_⟩
  change EStateM.Result.ok (b.device.page.read _).1
    { b with device := { b.device with page := (b.device.page.read _).2 } } = _
  rw [hread]

theorem showsService_localApic (v : UInt8) :
    localApic.ShowsService (served v)
      fun b : Bench LineRig => b.device.page.values = (serving v).device.page.values :=
  showsService_page (serving v).device.page

/-- What is to be seen of the controller that probing a rig answers. -/
def probeView {α : Type} (platform : Acpi.MadtPlatform)
    (f : IoApic (Socket LineRig SelectWindow) → α) : Option α :=
  match IoApic.probe (m := BenchM LineRig) platform 5 (fun _ => pure (.ok windowSocket))
      (serving 0x39) with
  | .ok (.ok a) _ => some (f a)
  | _ => none

/-- A view that the probe of a board computes is a view of the driver that the probe returns. -/
theorem exists_probe_of_view {α : Type} {platform : Acpi.MadtPlatform}
    {f : IoApic (Socket LineRig SelectWindow) → α} {r : α} (h : probeView platform f = some r) :
    ∃ a s', IoApic.probe (m := BenchM LineRig) platform 5 (fun _ => pure (.ok windowSocket))
      (serving 0x39) = .ok (.ok a) s' ∧ f a = r := by
  unfold probeView at h
  split at h
  next a s' hprobe => exact ⟨a, s', hprobe, Option.some.inj h⟩
  next => exact nomatch h

/-- The controller of a machine that serves the interrupts 16 to 19: interrupts 0 and 9 are sent to
two of its pins, and interrupt 5 arrives elsewhere. -/
theorem exists_probe_rerouted : ∃ a s', IoApic.probe (m := BenchM LineRig) ProbeRig.rerouted 5
      (fun _ => pure (.ok windowSocket)) (serving 0x39) = .ok (.ok a) s'
    ∧ a.pins = 4 ∧ a.pinOf (a.gsiOf 0) = .ok 2 ∧ a.pinOf (a.gsiOf 9) = .ok 1
    ∧ a.pinOf (a.gsiOf 5) = .error (.gsiOutOfRange 5) := by
  have hview : probeView ProbeRig.rerouted
      (fun a => (a.pins, a.gsiBase, a.gsiOf 0, a.gsiOf 9, a.gsiOf 5))
      = some (4, 16, 18, 17, 5) := by decide +kernel
  obtain ⟨a, s', hprobe, hsees⟩ := exists_probe_of_view hview
  obtain ⟨hpins, hbase, hzero, hnine, hfive⟩ :
      a.pins = 4 ∧ a.gsiBase = 16 ∧ a.gsiOf 0 = 18 ∧ a.gsiOf 9 = 17 ∧ a.gsiOf 5 = 5 := by
    simpa only [Prod.mk.injEq] using hsees
  refine ⟨a, s', hprobe, hpins, pinOf_eq_ok.mpr ?_, pinOf_eq_ok.mpr ?_, ?_⟩
  · rw [hzero, hpins, hbase]
    decide
  · rw [hnine, hpins, hbase]
    decide
  · rw [hfive]
    refine pinOf_eq_error.mpr ⟨rfl, ?_⟩
    rw [hpins, hbase]
    decide

/-- Line 9 of a machine that wants its first vector at `0x30`: the I/O APIC accepts it, and it is
unmasked at the second pin with vector `0x39`; the line is found when this vector is in service.
Vector `0x50` is none of its lines. -/
theorem lines_roundTrip_nine :
    (Maps wiring (fun _ => pure (.ok windowSocket)) ∧ wiring.ready (serving 0x39))
      ∧ ∃ a s', IoApic.probe (m := BenchM LineRig) ProbeRig.rerouted 5
          (fun _ => pure (.ok windowSocket)) (serving 0x39) = .ok (.ok a) s'
        ∧ let c : ApicController (Socket LineRig RegisterPage) (Socket LineRig SelectWindow) :=
            { localApic, ioApic := a
              irqBase := (Config.ofCommandLine (some "irq.pic_master=0x30")).masterBase }
          (9 : UInt8).toNat < c.lines ∧ c.irqBase + 9 = 0x39 ∧ wiring.ready s'
            ∧ LocalApic.OnlyVector (served 0x39) (c.irqBase + 9)
            ∧ LocalApic.OnlyVector (served 0x50) 0x50
            ∧ ¬(c.irqBase.toNat ≤ (0x50 : UInt8).toNat
              ∧ (0x50 : UInt8).toNat < c.irqBase.toNat + c.lines)
            ∧ (∃ s₂ r' s₃,
              a.enable (m := BenchM LineRig) 9 (c.irqBase + 9) s' = .ok (.ok ()) s₂
                ∧ (Registry.empty : Registry LineCase).unmaskLine (m := BenchM LineRig) c 9 s'
                  = .ok (.ok (), r') s₃
                ∧ a.pinOf (a.gsiOf 9) = .ok 1
                ∧ ((wiring.registers s₃).entry 1).vector = 0x39
                ∧ ((wiring.registers s₃).entry 1).isMasked = false)
            ∧ (∃ s₂, c.currentIrq (m := BenchM LineRig) (c.irqBase + 9) (serving 0x39)
              = .ok (some 9) s₂)
            ∧ ∃ s₂, c.currentIrq (m := BenchM LineRig) 0x50 (serving 0x50) = .ok none s₂ := by
  have hready : wiring.ready (serving 0x39) := rfl
  obtain ⟨a, s', hprobe, hpins, -, hpin, -⟩ := exists_probe_rerouted
  obtain ⟨⟨info, ha⟩, hruns⟩ := probe_eq_ok maps_pure hready hprobe
  have hwired : a.IsWired wiring := ha ▸ isWired_probed _ info 5 _
  have hround := lines_roundTrip maps_pure hready hprobe localApic (some "irq.pic_master=0x30")
  refine ⟨⟨maps_pure, hready⟩, a, s', hprobe, ?_⟩
  intro c
  obtain ⟨hlines, hforeign⟩ := hround
  have hbase : c.irqBase = 0x30 :=
    (by decide +kernel : (Config.ofCommandLine (some "irq.pic_master=0x30")).masterBase = 0x30)
  have hvector : c.irqBase + 9 = 0x39 := by rw [hbase]; rfl
  have hcount : c.lines = 16 := by
    unfold ApicController.lines
    rw [hbase, show c.ioApic.pins = 4 from hpins]
    rfl
  have hlt : (9 : UInt8).toNat < c.lines := by
    rw [hcount]
    decide
  have honly : LocalApic.OnlyVector (served 0x39) (c.irqBase + 9) := by
    rw [hvector]
    unfold LocalApic.OnlyVector
    decide +kernel
  have honly' : LocalApic.OnlyVector (served 0x50) 0x50 := by
    unfold LocalApic.OnlyVector
    decide +kernel
  have hout : ¬(c.irqBase.toNat ≤ (0x50 : UInt8).toNat
      ∧ (0x50 : UInt8).toNat < c.irqBase.toNat + c.lines) := by
    rw [hbase, hcount]
    decide
  obtain ⟨-, hunmask, hserved⟩ := hlines 9 hlt
  -- The interrupt has a pin, so the I/O APIC's reply is not a refusal.
  obtain ⟨reply, s₂, r', s₃, henable, hrun, hentry⟩ := hunmask Registry.empty s' hruns.ready
  obtain ⟨_, haccepted⟩ := runs_enable hwired hruns.ready hpin (c.irqBase + 9)
  obtain rfl : reply = .ok () := by cases henable.symm.trans haccepted.run; rfl
  obtain ⟨pin, hpin', hwritten, hmasked⟩ := hentry rfl
  obtain rfl : pin = 1 := Except.ok.inj (hpin'.symm.trans hpin)
  obtain ⟨s₄, -, hnamed, -⟩ := hserved _ _ (showsService_localApic 0x39) honly _ rfl
  obtain ⟨s₅, -, hnone⟩ :=
    hforeign _ _ 0x50 0x50 (showsService_localApic 0x50) honly' hout _ rfl
  exact ⟨hlt, hvector, hruns.ready, honly, honly', hout,
    ⟨s₂, r', s₃, henable, hrun, hpin, hwritten.trans hvector, hmasked⟩, ⟨s₄, hnamed⟩, s₅, hnone⟩

end Sim.LineRig

end Interrupts
