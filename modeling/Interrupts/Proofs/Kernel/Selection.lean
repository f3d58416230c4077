import Interrupts.Proofs.Config.CommandLine
import Interrupts.Proofs.Kernel.Apics
import Interrupts.Proofs.Registry.Chains

/-!
# Which controllers end up in charge

However far the APICs got, exactly one way of taking interrupts is open once the controllers are set
up. `RunsOnApics` and `RunsOnPics` are the two, down to what the devices hold, and
`initControllers_selects` says that it is the one that is answered, that the kernel remembers, and
that the firmware was told last.

What a device holds in the end is read off the deeds. A register of the Local APIC holds what was
stored to it last (`lastStored`), an entry of the I/O APIC what the accesses of its window made of
it (`windowAfter`), and the chips of the pair what the bytes written to them made of them, each
whatever it was before. For this the registers of the two APICs must not overlap (`AreSeparate`).
-/

namespace Interrupts

open Boot IoApic
open Acpi (InterruptModel ModelReply PlatformTables)

/-! ## What the firmware is told -/

/-- **A platform with a record** of the interrupt models it was told. -/
structure Recorded (T : Type) where
  /-- What answers the questions about the platform. -/
  platform : T
  /-- The models that the firmware was told, in order. -/
  told : List InterruptModel

instance {T : Type} [PlatformTables T] : PlatformTables (Recorded T) where
  supported p := PlatformTables.supported p.platform
  search p := PlatformTables.search p.platform
  entryBound p := PlatformTables.entryBound p.platform
  changeModel p model :=
    let reply := PlatformTables.changeModel p.platform model
    { accepted := reply.accepted
      platform := { platform := reply.platform, told := p.told ++ [model] }
      lines := reply.lines }
  hasLegacyPics p := PlatformTables.hasLegacyPics p.platform

theorem getLast?_told {T : Type} [PlatformTables T] (p : Recorded T) (model : InterruptModel) :
    (PlatformTables.changeModel p model).platform.told.getLast? = some model :=
  List.getLast?_concat

/-! ## Separate devices -/

/-- **The two APICs are separate devices**: no address belongs to both windows. -/
def AreSeparate (a : LocalApic Window) (i : IoApic Window) : Prop :=
  ∀ o < LocalApic.windowSize, ∀ o' < IoApic.windowSize,
    a.window.virtBase + o ≠ i.window.virtBase + o'

namespace AreSeparate

variable {a : LocalApic Window} {i : IoApic Window} {values : List (UInt64 × UInt32)}

/-- Stores to the Local APIC do not concern the I/O APIC. -/
theorem windowAfter_stores (h : AreSeparate a i)
    (hvalues : ∀ v ∈ values, v.1 < LocalApic.windowSize) (held : UInt8 × RegisterFile) :
    windowAfter i.window.virtBase held (a.stores values) = held := by
  refine windowAfter_of_elsewhere held fun address value hmem => ?_
  obtain ⟨v, hv, heq⟩ := List.mem_map.mp hmem
  cases heq
  exact ⟨h _ (hvalues v hv) _ (by decide), h _ (hvalues v hv) _ (by decide)⟩

/-- Accesses to the I/O APIC do not concern the Local APIC. -/
theorem lastStored_accessStores (h : AreSeparate a i) {offset : UInt64}
    (hoffset : offset < LocalApic.windowSize) (es : List Sim.WindowEvent) :
    lastStored (a.window.virtBase + offset) (es.flatMap (accessStores i.window)) = none := by
  refine lastStored_of_elsewhere fun value hmem => ?_
  obtain ⟨e, -, he⟩ := List.mem_flatMap.mp hmem
  -- every access to the I/O APIC goes through two registers, and neither is one of the local ones
  have hselect := h offset hoffset selectOffset (by decide)
  have hdata := h offset hoffset dataOffset (by decide)
  cases e with
  | read r v => exact hselect (HardwareEvent.store.inj (List.mem_singleton.mp he)).1
  | write r v =>
    rcases List.mem_cons.mp he with heq | he
    · exact hselect (HardwareEvent.store.inj heq).1
    · exact hdata (HardwareEvent.store.inj (List.mem_singleton.mp he)).1

end AreSeparate

/-! ## The two halves of the setup -/

namespace Boot

variable {X : Surroundings} [Behaviour X] {T : Type} [PlatformTables T]

/-- **Putting one of the two in charge**, and starting its tick. -/
def takeCharge (cfg : Config) (platform : T) (paging : KernelPaging X) :
    Boot X (IrqMode × T) := do
  match ← tryApics cfg platform paging with
  | (some c, platform) => do
    setActive (.apic c)
    startApicTick c.irqBase cfg.timerHz
    pure (.apic, platform)
  | (none, platform) => do
    let (_, platform) ← changeModel platform .pic
    onPic Pic.enable
    setActive .pic
    let hz ← Pit.setFrequency ports cfg.timerHz
    log .info s!"IRQ: PIT tick at {hz.toNat} Hz"
    pure (.pic, platform)

/-- **What is left to do** then: the kernel remembers who is in charge, and gets its tick. -/
def settle (cfg : Config) (reply : IrqMode × T) : Boot X (IrqMode × T) := do
  update fun k => { k with mode := reply.1 }
  match ← installHandler Pic.timerLine (.tick { hz := cfg.timerHz }) none with
  | .ok _ => pure ()
  | .error e => log .warn s!"IRQ: Cannot install the tick handler: {e.describe}"
  log .debug s!"IRQ: Initialized ({reply.1.name})"
  pure reply

/-- Bringing up the controllers is done in four stages. -/
theorem initControllers_eq (cfg : Config) (platform : T) (paging : KernelPaging X) :
    initControllers cfg platform paging = (do
      log .debug "IRQ: Initializing..."
      onPic fun p => pure (p.setOffsets cfg.masterBase cfg.slaveBase)
      let reply ← takeCharge cfg platform paging
      settle cfg reply) := by
  unfold initControllers takeCharge
  refine bind_congr fun _ => bind_congr fun _ => ?_
  rw [bind_assoc]
  refine bind_congr fun tried => ?_
  obtain ⟨c, p⟩ := tried
  cases c with
  | some c =>
    simp only [bind_assoc, pure_bind]
    rfl
  | none =>
    simp only [bind_assoc, pure_bind]
    rfl

end Boot

variable {X : Surroundings} [Behaviour X] {k k' : Kernel (Watched X)} {u : Unit}

namespace Kernel

/-! ## The controller in charge and the tick -/

/-- **Putting a controller in charge** is no deed. -/
theorem progress_setActive {c : ActiveController (Watched X)} (h : setActive c k = .ok u k') :
    Progress k [] k' ∧ k'.active = some c ∧ k'.localApic = k.localApic
      ∧ k'.ioApic = k.ioApic := by
  obtain ⟨lines, k₁, hlines, h⟩ := bind_eq_ok.mp h
  obtain ⟨_, k₂, hlog, hupdate⟩ := bind_eq_ok.mp h
  have hsame : k₁ = k := by
    cases c <;> cases hlines <;> rfl
  have hdid : Did k [] k₂ := hsame ▸ did_log hlog
  cases hupdate
  exact ⟨hdid.progress.congr rfl rfl rfl, rfl, hdid.localApic, hdid.ioApic⟩

/-- **Installing a handler** for a line that exists puts it in front of the chain. -/
theorem installHandler_eq_ok {irq : UInt8} {handler : KernelHandler (Watched X)} {cpu : Option Nat}
    {reply : Except IrqError HandlerId} (hlt : irq.toNat < Registry.lineCount)
    (h : installHandler irq handler cpu k = .ok reply k') :
    ∃ id k₁ r, reply = .ok id ∧ Did k [] k₁ ∧ k' = { k₁ with registry := r }
      ∧ r.chain = Function.update k.registry.chain irq
        (⟨id, cpu, handler⟩ :: k.registry.chain irq) := by
  obtain ⟨_, _, ⟨⟩, h⟩ := bind_eq_ok.mp h
  obtain ⟨⟨reply, r⟩, k₁, hinstall, h⟩ := bind_eq_ok.mp h
  obtain ⟨_, _, ⟨⟩, h⟩ := bind_eq_ok.mp h
  obtain ⟨rfl, rfl⟩ := pure_eq_ok.mp h
  obtain ⟨r', hr', -, hchain⟩ := k.registry.install_of_lt handler cpu hlt
  change k.registry.installLogged (m := Boot (Watched X)) irq handler cpu k = .ok (reply, r) k₁
    at hinstall
  unfold Registry.installLogged at hinstall
  rw [hr'] at hinstall
  obtain ⟨_, k₂, hlog, hinstall⟩ := bind_eq_ok.mp hinstall
  obtain ⟨heq, rfl⟩ := pure_eq_ok.mp hinstall
  cases heq
  exact ⟨_, k₂, _, rfl, did_log hlog, rfl, hchain⟩

/-! ## Being in charge -/

/-- **The APICs are in charge**: they are up and active; the local source of the 8259 pair is
masked, and so is every entry of the I/O APIC, whatever the window held before; and if there is a
pair, both chips are programmed and masked, whatever they were before. -/
structure RunsOnApics (k : Kernel (Watched X)) (cfg : Config) (legacyPics : Bool)
    (events : List HardwareEvent) (a : LocalApic Window) (i : IoApic Window) : Prop where
  localApic : k.localApic = .ready a
  ioApic : k.ioApic = .ready i
  /-- Deliveries are named and ended by the two APICs. -/
  active : k.active = some (.apic { localApic := a, ioApic := i, irqBase := cfg.masterBase })
  /-- What was stored last at the local source of the pair. -/
  lint0 : lastStored (a.window.virtBase + LocalApic.lint0Entry) events
    = some LocalApic.maskedEntry
  /-- The driver counts the pins as the version register does. -/
  pins : i.pins = pinsOfVersion i.version
  /-- Whatever was selected and stored before, every pin is masked now. -/
  entries : ∀ (held : UInt8 × RegisterFile) (pin : UInt32), pin < i.pins →
    (windowAfter i.window.virtBase held events).2.entry pin = .masked
  /-- If there is a pair, it is silent at vectors of its own. -/
  chips : legacyPics = true → ∀ chips : Chips,
    chips.after events = .atWork cfg.masterBase cfg.slaveBase 0xff 0xff

/-- **The 8259 pair is in charge**: it is active, programmed and unmasked, whatever the chips were
before. A Local APIC that came up lets the pair and NMIs through; without one, nothing was
stored. -/
structure RunsOnPics (k : Kernel (Watched X)) (cfg : Config) (events : List HardwareEvent) :
    Prop where
  active : k.active = some .pic
  /-- Both chips deliver, at the vectors of the configuration. -/
  chips : ∀ chips : Chips, chips.after events = .atWork cfg.masterBase cfg.slaveBase 0x00 0x00
  /-- A Local APIC passes on what the pair delivers. -/
  routed : ∀ a, k.localApic = .ready a →
    lastStored (a.window.virtBase + LocalApic.lint0Entry) events = some LocalApic.extIntEntry
      ∧ lastStored (a.window.virtBase + LocalApic.lint1Entry) events = some LocalApic.nmiEntry
  /-- Without one, no register was stored to. -/
  untouched : k.localApic.get? = none → StoresNothing events

omit [Behaviour X] in
/-- Only deeds matter for being in charge. -/
theorem RunsOnApics.of_deeds {cfg : Config} {legacyPics : Bool} {a : LocalApic Window}
    {i : IoApic Window} {events : List HardwareEvent}
    (h : RunsOnApics k cfg legacyPics (events.filter HardwareEvent.isDeed) a i) :
    RunsOnApics k cfg legacyPics events a i where
  localApic := h.localApic
  ioApic := h.ioApic
  active := h.active
  lint0 := by rw [← lastStored_deeds, h.lint0]
  pins := h.pins
  entries held pin hpin := by rw [← windowAfter_deeds, h.entries held pin hpin]
  chips hlegacy chips := by rw [← chips.after_deeds, h.chips hlegacy chips]

omit [Behaviour X] in
@[inherit_doc RunsOnApics.of_deeds]
theorem RunsOnPics.of_deeds {cfg : Config} {events : List HardwareEvent}
    (h : RunsOnPics k cfg (events.filter HardwareEvent.isDeed)) : RunsOnPics k cfg events where
  active := h.active
  chips chips := by rw [← chips.after_deeds, h.chips chips]
  routed a ha := by
    rw [← lastStored_deeds, ← lastStored_deeds _ events]
    exact h.routed a ha
  untouched hnone := (h.untouched hnone).of_deeds

/-! ## What the devices hold -/

section Devices

variable {a : LocalApic Window} {i : IoApic Window} {values : List (UInt64 × UInt32)}
  {destination spurious version : UInt32} {deeds silencing : List HardwareEvent}

/-- What is done to the two APICs: the Local APIC is enabled, the I/O APIC is set up, and the timer
is started. -/
def apicDeeds (a : LocalApic Window) (i : IoApic Window) (destination spurious version : UInt32)
    (values : List (UInt64 × UInt32)) : List HardwareEvent :=
  a.stores (LocalApic.enabling destination spurious ++ [(LocalApic.endOfInterrupt, 0)])
    ++ (setUpAccesses version).flatMap (accessStores i.window) ++ a.stores values

/-- The entry for the 8259 pair is masked when the Local APIC is enabled, and nothing later unmasks
it, as the I/O APIC's window lies elsewhere. -/
theorem lint0_after_apicDeeds (h : AreSeparate a i)
    (hvalues : ∀ v ∈ values, v.1 ≠ LocalApic.lint0Entry) :
    lastStored (a.window.virtBase + LocalApic.lint0Entry)
      (silencing ++ apicDeeds a i destination spurious version values)
      = some LocalApic.maskedEntry := by
  -- of all the deeds only those of enabling reach this register, and the last one masks it
  have henabling : lastStored (a.window.virtBase + LocalApic.lint0Entry)
      (a.stores (LocalApic.enabling destination spurious ++ [(LocalApic.endOfInterrupt, 0)]))
      = some LocalApic.maskedEntry := by
    rw [LocalApic.lastStored_stores]
    rfl
  unfold apicDeeds
  rw [lastStored_append, lastStored_append, lastStored_append,
    LocalApic.lastStored_stores_of_ne a hvalues, h.lastStored_accessStores (by decide),
    henabling]
  rfl

/-- All pins are masked when the I/O APIC is set up, and the stores to the Local APIC before and
after lie elsewhere. -/
theorem entry_after_apicDeeds (h : AreSeparate a i)
    (hvalues : ∀ v ∈ values, v.1 < LocalApic.windowSize) (held : UInt8 × RegisterFile)
    {pin : UInt32} (hpin : pin < pinsOfVersion version) :
    (windowAfter i.window.virtBase held
      (silencing ++ apicDeeds a i destination spurious version values)).2.entry pin = .masked := by
  unfold apicDeeds
  rw [windowAfter_append, windowAfter_append, windowAfter_append, h.windowAfter_stores hvalues,
    windowAfter_accessStores, setUpAccesses, RegisterFile.after_read]
  exact entry_after_maskWrites_zero _ (pinsOfVersion_bounds version).2
    (UInt32.lt_iff_toNat_lt.mp hpin)

/-- Nothing of this reaches the chips. -/
theorem chips_after_apicDeeds (chips : Chips) :
    chips.after (apicDeeds a i destination spurious version values) = chips := by
  unfold apicDeeds
  rw [Chips.after_append, Chips.after_append,
    chips.after_of_storesOnly (a.storesOnly_stores _),
    chips.after_of_storesOnly (storesOnly_accessStores _ _),
    chips.after_of_storesOnly (a.storesOnly_stores _)]

/-- A pair that is silenced and then left alone is programmed and masked. -/
theorem chips_after_silencing {cfg : Config} (hcfg : cfg.IsSound) {p : Pic MachinePorts}
    (hoffsets : p.offsets = (cfg.masterBase, cfg.slaveBase)) (h : p.IsSilencedBy true silencing)
    (chips : Chips) :
    chips.after (silencing ++ apicDeeds a i destination spurious version values)
      = .atWork cfg.masterBase cfg.slaveBase 0xff 0xff := by
  obtain ⟨masterMask, slaveMask, rfl⟩ := h
  obtain ⟨hmaster, hslave⟩ := Prod.mk.inj hoffsets
  rw [Chips.after_append, chips_after_apicDeeds, Chips.after_append, hmaster, hslave,
    chips.after_programming hcfg.masterBase.2.2 hcfg.slaveBase.2.2, Chips.after_masking]

end Devices

/-! ## The selection -/

section Selection

variable {T : Type} [PlatformTables T] {cfg : Config} {platform : Recorded T}
  {paging : KernelPaging (Watched X)} {mode : IrqMode} {p' : Recorded T}

/-- **One of the two is in charge**, and the firmware was told so last. -/
inductive Selected (k : Kernel (Watched X)) (cfg : Config) (p : Recorded T)
    (events : List HardwareEvent) : IrqMode → Prop where
  /-- The APICs are in charge, and the firmware routes interrupts to them. -/
  | apics (a : LocalApic Window) (i : IoApic Window) (told : p.told.getLast? = some .apic)
      (runs : RunsOnApics k cfg (PlatformTables.hasLegacyPics p) events a i) :
      Selected k cfg p events .apic
  /-- The pair is in charge, and the firmware routes interrupts to it. -/
  | pics (told : p.told.getLast? = some .pic) (runs : RunsOnPics k cfg events) :
      Selected k cfg p events .pic

omit [Behaviour X] in
/-- When the APICs were given up, a Local APIC that came up lets the pair through. -/
theorem Tried.fallback (h : Tried cfg platform k (none, p') k') :
    ∃ deeds, Progress k deeds k'
      ∧ (∀ a, k'.localApic = .ready a → ∃ deeds', deeds = deeds' ++ a.stores LocalApic.routing)
      ∧ (k'.localApic.get? = none → StoresNothing deeds) := by
  -- an attempt that answers no controller has either no Local APIC or one that lets the pair
  -- through
  cases h with
  | absent cell stores progress =>
    refine ⟨_, progress, fun a ha => ?_, fun _ => stores⟩
    rw [ha] at cell
    exact nomatch cell
  | unpaired cell progress =>
    refine ⟨_, progress, fun a ha => ?_, fun hnone => ?_⟩
    · cases cell.symm.trans ha
      exact ⟨_, rfl⟩
    · rw [cell] at hnone
      exact nomatch hnone

omit [Behaviour X] in
/-- The pair takes over from APICs that were given up. -/
theorem runsOnPics_of_fallback (hcfg : cfg.IsSound) {deeds : List HardwareEvent}
    {masterMask slaveMask : UInt8} (hactive : k.active = some .pic)
    (hrouted : ∀ a, k.localApic = .ready a → ∃ deeds', deeds = deeds' ++ a.stores LocalApic.routing)
    (huntouched : k.localApic.get? = none → StoresNothing deeds) :
    RunsOnPics k cfg (deeds ++ (Pic.programming cfg.masterBase cfg.slaveBase masterMask slaveMask
      ++ Pic.masking 0x00)) := by
  have hports :=
    Pic.storesNothing_programming cfg.masterBase cfg.slaveBase masterMask slaveMask 0x00
  refine ⟨hactive, fun chips => ?_, fun a ha => ?_, fun hnone => (huntouched hnone).append hports⟩
  · rw [Chips.after_append, Chips.after_append,
      Chips.after_programming _ hcfg.masterBase.2.2 hcfg.slaveBase.2.2, Chips.after_masking]
  · obtain ⟨deeds', rfl⟩ := hrouted a ha
    -- The bytes for the pair are no stores, so the last words are those that let the pair through.
    have hlast (offset : UInt64) : lastStored (a.window.virtBase + offset)
        (deeds' ++ a.stores LocalApic.routing
          ++ (Pic.programming cfg.masterBase cfg.slaveBase masterMask slaveMask
            ++ Pic.masking 0x00))
        = (lastStored (a.window.virtBase + offset) (a.stores LocalApic.routing)).or
          (lastStored (a.window.virtBase + offset) deeds') := by
      rw [lastStored_append, lastStored_of_elsewhere (hports _), Option.none_or, lastStored_append]
    constructor
    · rw [hlast, LocalApic.lastStored_stores]
      rfl
    · rw [hlast, LocalApic.lastStored_stores]
      rfl

/-- **Taking charge**: whatever became of the APICs, one of the two is in charge. -/
theorem takeCharge_selects (hcfg : cfg.IsSound)
    (hoffsets : k.pic.offsets = (cfg.masterBase, cfg.slaveBase)) (hfree : k.localApic = .unclaimed)
    (hseparate : ∀ a i, k'.localApic = .ready a → k'.ioApic = .ready i → AreSeparate a i)
    (h : takeCharge cfg platform paging k = .ok (mode, p') k') :
    ∃ deeds, Progress k deeds k' ∧ Selected k' cfg p' deeds mode := by
  obtain ⟨⟨c, p⟩, k₁, htry, h⟩ := bind_eq_ok.mp h
  have htried := tryApics_tried hfree htry
  cases c with
  | some c =>
    obtain ⟨_, k₂, hactive, h⟩ := bind_eq_ok.mp h
    obtain ⟨_, k₃, htick, h⟩ := bind_eq_ok.mp h
    obtain ⟨heq, rfl⟩ := pure_eq_ok.mp h
    cases heq
    obtain ⟨hannounced, hactive, hlocal, hio⟩ := progress_setActive hactive
    cases htried with
    | @paired _ silencing a i destination spurious cell ioCell pins silenced progress =>
      -- Whether the timer could be started does not matter: only its registers were stored to.
      obtain ⟨values, htimer, hregisters⟩ := didTimer_startApicTick (hlocal.trans cell) htick
      have hlocal : k₃.localApic = .ready a := htimer.localApic.trans (hlocal.trans cell)
      have hio : k₃.ioApic = .ready i := htimer.ioApic.trans (hio.trans ioCell)
      have hapart := hseparate a i hlocal hio
      have hlint0 : ∀ v ∈ values, v.1 ≠ LocalApic.lint0Entry := fun v hv =>
        LocalApic.ne_lint0_of_timer (hregisters v hv)
      have hwithin : ∀ v ∈ values, v.1 < LocalApic.windowSize := fun v hv =>
        LocalApic.lt_windowSize_of_timer (hregisters v hv)
      refine ⟨silencing ++ apicDeeds a i destination spurious i.version values, ?_,
        .apics a i (getLast?_told platform .apic) ⟨hlocal, hio, htimer.active.trans hactive,
          lint0_after_apicDeeds hapart hlint0, pins, fun held pin hpin =>
          entry_after_apicDeeds hapart hwithin held (pins ▸ hpin), fun hlegacy chips => ?_⟩⟩
      · have hdone := (progress.then_nothing hannounced).trans htimer.progress
        rwa [List.append_assoc, List.append_assoc, ← List.append_assoc (a.stores _)] at hdone
      · rw [hlegacy] at silenced
        exact chips_after_silencing hcfg hoffsets silenced chips
  | none =>
    -- What the attempt did to the pair is undone, since the pair is programmed once more.
    obtain ⟨deeds, hprogress, hrouted, huntouched⟩ := htried.fallback
    obtain ⟨⟨accepted, p''⟩, k₂, hmodel, h⟩ := bind_eq_ok.mp h
    obtain ⟨_, k₃, hlines, hmodel⟩ := bind_eq_ok.mp hmodel
    obtain ⟨heq, rfl⟩ := pure_eq_ok.mp hmodel
    cases heq
    obtain ⟨_, k₄, honPic, h⟩ := bind_eq_ok.mp h
    obtain ⟨_, k₅, hactive, h⟩ := bind_eq_ok.mp h
    obtain ⟨hz, k₆, hrate, h⟩ := bind_eq_ok.mp h
    obtain ⟨_, k₇, hlog, h⟩ := bind_eq_ok.mp h
    obtain ⟨heq, rfl⟩ := pure_eq_ok.mp h
    cases heq
    obtain ⟨q, k₈, henable, rfl⟩ := onPic_eq_ok honPic
    obtain ⟨masterMask, slaveMask, henabled, rfl⟩ := did_enablePic henable
    have htold := did_logAll hlines
    obtain ⟨hannounced, hactive, hlocal, -⟩ := progress_setActive hactive
    have hticks := (did_setFrequency hrate).trans (did_log hlog)
    have hcell : k₇.localApic = k₁.localApic := hticks.localApic.trans
      (hlocal.trans (henabled.localApic.trans htold.localApic))
    obtain ⟨hmaster, hslave⟩ := Prod.mk.inj hoffsets
    have hpic : k₃.pic = k.pic := htold.pic.trans hprogress.pic
    have henabling := (hprogress.then_nothing htold.progress).trans henabled.progress_onPic
    have hdone := (henabling.then_nothing hannounced).then_nothing hticks.progress
    rw [hpic, hmaster, hslave] at hdone
    refine ⟨_, hdone, .pics (getLast?_told p .pic) (runsOnPics_of_fallback hcfg
      (hticks.active.trans hactive) ?_ ?_)⟩
    · rw [hcell]
      exact hrouted
    · rw [hcell]
      exact huntouched

omit [PlatformTables T] in
/-- **Settling** changes nothing about who is in charge, and installs the tick. -/
theorem settle_eq_ok {reply reply' : IrqMode × Recorded T}
    (h : settle cfg reply k = .ok reply' k') :
    reply' = reply ∧ k'.mode = reply.1 ∧ Added k [] k' ∧ k'.localApic = k.localApic
      ∧ k'.ioApic = k.ioApic ∧ k'.active = k.active ∧ k'.pic = k.pic
      ∧ ∃ id, k'.registry.chain = Function.update k.registry.chain Pic.timerLine
        (⟨id, none, .tick { hz := cfg.timerHz }⟩ :: k.registry.chain Pic.timerLine) := by
  obtain ⟨_, _, ⟨⟩, h⟩ := bind_eq_ok.mp h
  obtain ⟨r, k₁, hinstall, h⟩ := bind_eq_ok.mp h
  obtain ⟨id, k₂, registry, rfl, hdid, rfl, hchain⟩ := installHandler_eq_ok (by decide) hinstall
  obtain ⟨_, k₃, hlog, h⟩ := bind_eq_ok.mp h
  obtain ⟨rfl, rfl⟩ := pure_eq_ok.mp h
  have hlogged := did_log hlog
  refine ⟨rfl, hlogged.mode.trans hdid.mode, hdid.added.trans hlogged.added,
    hlogged.localApic.trans hdid.localApic, hlogged.ioApic.trans hdid.ioApic,
    hlogged.active.trans hdid.active, hlogged.pic.trans hdid.pic, id, ?_⟩
  rw [hlogged.registry, hchain]

omit [Behaviour X] in
/-- Who is in charge shows in few places. -/
theorem Selected.congr {events : List HardwareEvent} (h : Selected k cfg p' events mode)
    (hlocal : k'.localApic = k.localApic) (hio : k'.ioApic = k.ioApic)
    (hactive : k'.active = k.active) : Selected k' cfg p' events mode := by
  cases h with
  | apics a i told runs =>
    exact .apics a i told { runs with
      localApic := hlocal.trans runs.localApic
      ioApic := hio.trans runs.ioApic
      active := hactive.trans runs.active }
  | pics told runs =>
    exact .pics told { runs with
      active := hactive.trans runs.active
      routed := fun a ha => runs.routed a (hlocal.symm.trans ha)
      untouched := fun hnone => runs.untouched (hlocal ▸ hnone) }

omit [Behaviour X] in
/-- What was selected shows in the deeds. -/
theorem Selected.of_deeds {events : List HardwareEvent}
    (h : Selected k cfg p' (events.filter HardwareEvent.isDeed) mode) :
    Selected k cfg p' events mode := by
  cases h with
  | apics a i told runs => exact .apics a i told runs.of_deeds
  | pics told runs => exact .pics told runs.of_deeds

/-- **Setting up the controllers for the first time leaves exactly one way open.** With the
configuration of any command line, on any platform and any hardware on which the two APICs are
separate devices: when the setup comes to an end, the kernel remembers the answer, that one is in
charge and the firmware was told so last, the chips' vectors are the configured ones, and the tick
is the one handler that was installed, on its line. -/
theorem initControllers_selects {line : Option String} (hcfg : cfg = .ofCommandLine line)
    (hfirst : k.localApic = .unclaimed)
    (hseparate : ∀ a i, k'.localApic = .ready a → k'.ioApic = .ready i → AreSeparate a i)
    (h : initControllers cfg platform paging k = .ok (mode, p') k') :
    ∃ events id, k'.events = k.events ++ events ∧ k'.mode = mode
      ∧ Selected k' cfg p' events mode
      ∧ k'.pic.offsets = (cfg.masterBase, cfg.slaveBase)
      ∧ k'.registry.chain = Function.update k.registry.chain Pic.timerLine
        (⟨id, none, .tick { hz := cfg.timerHz }⟩ :: k.registry.chain Pic.timerLine) := by
  rw [initControllers_eq] at h
  obtain ⟨_, k₁, hlog, h⟩ := bind_eq_ok.mp h
  obtain ⟨_, k₂, hoffsets, h⟩ := bind_eq_ok.mp h
  obtain ⟨reply, k₃, hcharge, hsettle⟩ := bind_eq_ok.mp h
  obtain ⟨q, k₄, hset, hk₂⟩ := onPic_eq_ok hoffsets
  obtain ⟨rfl, rfl⟩ := pure_eq_ok.mp hset
  obtain ⟨rfl, hmode, hsettled, hlocal, hio, hactive, hpic, id, hchain⟩ := settle_eq_ok hsettle
  have hstarted := did_log hlog
  -- Before anything is taken charge of, only the bases of the pair have been chosen.
  have hchosen : k₂.pic.offsets = (cfg.masterBase, cfg.slaveBase) := by rw [hk₂]; rfl
  have hbefore : Added k [] k₂ := hstarted.added.congr (by rw [hk₂])
  have hfree : k₂.localApic = .unclaimed := by rw [hk₂]; exact hstarted.localApic.trans hfirst
  have hregistry : k₂.registry = k.registry := by rw [hk₂]; exact hstarted.registry
  rw [hlocal, hio] at hseparate
  obtain ⟨deeds, hprogress, hselected⟩ := takeCharge_selects
    (hcfg ▸ Config.isSound_ofCommandLine line) hchosen hfree hseparate hcharge
  obtain ⟨events, hevents, hdeeds⟩ := (hbefore.trans hprogress.added).trans hsettled
  rw [List.nil_append, List.append_nil] at hdeeds
  rw [← hdeeds] at hselected
  refine ⟨events, id, hevents, hmode, hselected.of_deeds.congr hlocal hio hactive, ?_, ?_⟩
  · rw [hpic, hprogress.pic, hchosen]
  · rw [hchain, hprogress.registry, hregistry]

end Selection

end Kernel

/-! ## A machine with both APICs -/

/-- A machine whose interval timer moves on whenever it is latched. -/
def Clockwork : Surroundings :=
  Watched Still

instance : Behaviour Clockwork :=
  { (inferInstance : Behaviour (Watched Still)) with
    portRead := fun _ hw => (UInt8.ofNat (0x60 * hw.2.length), hw)
    readMsr := fun _ hw => (0xfee00900, hw) }

namespace Clockwork

/-- The kernel of the machine when it was just switched on. -/
def start : Kernel (Watched Clockwork) :=
  { hardware := (((), []), []) }

/-- What its firmware says: there is an I/O APIC. -/
def platform : Recorded Acpi.MadtPlatform :=
  { platform := Sim.ProbeRig.rerouted, told := [] }

/-- The setup of its controllers. -/
def setup :
    EStateM.Result Stop (Kernel (Watched Clockwork)) (IrqMode × Recorded Acpi.MadtPlatform) :=
  initControllers (X := Watched Clockwork) (.ofCommandLine none) platform (.registered ()) start

/-- Who ends up in charge, and where the two windows are. -/
def view : Option (IrqMode × UInt64 × UInt64) :=
  match setup with
  | .ok reply k =>
    match k.localApic, k.ioApic with
    | .ready a, .ready i => some (reply.1, a.window.virtBase, i.window.virtBase)
    | _, _ => none
  | .error _ _ => none

theorem view_eq : view = some (.apic, 0xfee00000, 0xfec00000) := by
  decide +kernel

/-- The setup comes to an end, with both windows where the firmware says. -/
theorem exists_setup : ∃ p' k' a i, setup = .ok (.apic, p') k' ∧ k'.localApic = .ready a
    ∧ k'.ioApic = .ready i ∧ a.window.virtBase = 0xfee00000 ∧ i.window.virtBase = 0xfec00000 := by
  have hview := view_eq
  unfold view at hview
  split at hview
  next reply k' hsetup =>
    split at hview
    next a i ha hi =>
      obtain ⟨mode, p'⟩ := reply
      obtain ⟨hmode, hbases⟩ := Prod.mk.inj (Option.some.inj hview)
      obtain ⟨hlocal, hio⟩ := Prod.mk.inj hbases
      obtain rfl : mode = .apic := hmode
      exact ⟨p', k', a, i, hsetup, ha, hi, hlocal, hio⟩
    next => exact nomatch hview
  next => exact nomatch hview

/-- Windows of these sizes at these places are separate. -/
theorem areSeparate {a : LocalApic Window} {i : IoApic Window}
    (ha : a.window.virtBase = 0xfee00000) (hi : i.window.virtBase = 0xfec00000) :
    AreSeparate a i := by
  intro o ho o' ho' heq
  have ho : o.toNat < 0x1000 := UInt64.lt_iff_toNat_lt.mp ho
  have ho' : o'.toNat < 0x20 := UInt64.lt_iff_toNat_lt.mp ho'
  rw [ha, hi] at heq
  -- the two windows lie apart even as numbers, so no sum of a base and an offset meets another
  have hsum := congrArg UInt64.toNat heq
  rw [UInt64.toNat_add, UInt64.toNat_add] at hsum
  have hlocal : (0xfee00000 : UInt64).toNat = 0xfee00000 := rfl
  have hio : (0xfec00000 : UInt64).toNat = 0xfec00000 := rfl
  omega

/-- On this machine the APICs end up in charge. -/
theorem initControllers_selects_apics :
    ∃ p' k',
      (start.localApic = .unclaimed
        ∧ (∀ a i, k'.localApic = .ready a → k'.ioApic = .ready i → AreSeparate a i)
        ∧ initControllers (X := Watched Clockwork) (.ofCommandLine none) platform (.registered ())
          start = .ok (.apic, p') k')
      ∧ ∃ events id, k'.events = start.events ++ events ∧ k'.mode = .apic
        ∧ k'.Selected (.ofCommandLine none) p' events .apic
        ∧ k'.pic.offsets = (0x20, 0x28)
        ∧ k'.registry.chain = Function.update start.registry.chain Pic.timerLine
          (⟨id, none, .tick { hz := 100 }⟩ :: start.registry.chain Pic.timerLine) := by
  obtain ⟨p', k', a, i, hrun, ha, hi, hlocal, hio⟩ := exists_setup
  have hseparate : ∀ a i, k'.localApic = .ready a → k'.ioApic = .ready i → AreSeparate a i := by
    intro a' i' ha' hi'
    cases ha.symm.trans ha'
    cases hi.symm.trans hi'
    exact areSeparate hlocal hio
  have hcfg : Config.ofCommandLine none = .ofCommandLine none := rfl
  exact ⟨p', k', ⟨rfl, hseparate, hrun⟩,
    Kernel.initControllers_selects hcfg rfl hseparate hrun⟩

end Clockwork

end Interrupts
