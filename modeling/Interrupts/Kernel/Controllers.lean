import Interrupts.Kernel.Lines
import Interrupts.LocalApic.Timer

/-!
# Setting up the interrupt controllers

At boot the core decides between two ways of taking interrupts. If the processor and the firmware
have APICs and nothing goes wrong with them, interrupts come from the I/O APIC through the Local
APIC, and the tick from the Local APIC's timer. Otherwise the pair of 8259 controllers is in charge
and the interval timer ticks; if the Local APIC was already brought up by then, it is told to let
the pair's interrupts through. Doing either twice is a programming error.
-/

namespace Interrupts

/-- **Why the Local APIC cannot be brought up.** -/
inductive LocalApicError where
  /-- The processor has none. -/
  | unsupported
  /-- Its registers could not be mapped. -/
  | map (error : PagingError)
  /-- It was brought up before. -/
  | alreadyInitialized
  /-- The boot processor has not brought it up. -/
  | notInitialized
  deriving DecidableEq, Repr

/-- The error as it is written in log lines. -/
def LocalApicError.describe : LocalApicError → String
  | unsupported => "Unsupported"
  | map e => s!"Map({e.describe})"
  | alreadyInitialized => "AlreadyInitialized"
  | notInitialized => "NotInitialized"

instance : ToString LocalApicError := ⟨LocalApicError.describe⟩

/-- The register with the Local APIC's base address and its global switch. -/
def apicBaseMsr : UInt32 := 0x1b

/-- The flags of that register: the boot processor, x2APIC mode and the global switch. -/
def apicBaseBoot : UInt64 := 0x100

@[inherit_doc apicBaseBoot] def apicBaseX2 : UInt64 := 0x400

@[inherit_doc apicBaseBoot] def apicBaseEnable : UInt64 := 0x800

/-- The bits of that register that hold the address. -/
def apicBaseMask : UInt64 := 0x000ffffffffff000

namespace Boot

variable {X : Surroundings} [Behaviour X]

/-- Throw the global switch of the Local APIC; answers the physical address of its registers. -/
def enableGlobal : Boot X UInt64 := do
  let base ← onHardware (Behaviour.readMsr apicBaseMsr)
  if base &&& apicBaseEnable = 0 then
    stepHardware (Behaviour.writeMsr apicBaseMsr (base ||| apicBaseEnable))
    log .debug "APIC: Enabled APIC globally via MSR"
  pure (base &&& apicBaseMask)

/-- Apply an operation of the 8259 pair to the kernel's. -/
def onPic (f : Pic MachinePorts → Boot X (Pic MachinePorts)) : Boot X Unit := do
  let p ← f (← kernel).pic
  update fun k => { k with pic := p }

/-- **Bring up the boot processor's Local APIC**, the 8259 pair masked first when there is one. -/
def initLocalApic (paging : KernelPaging X) (legacyPics : Bool) :
    Boot X (Except LocalApicError (LocalApic Window)) := do
  if !(← askHardware Behaviour.hasLocalApic) then
    log .info "APIC: Local APIC is not available"
    pure (.error .unsupported)
  else do
    if (← kernel).localApic.isClaimed then
      fatal .localApicTwice
    log .debug "APIC: Initializing..."
    let phys ← enableGlobal
    if legacyPics then
      onPic Pic.disable
    let mapped ← localApicSlot.tryInit do
      match ← Window.map paging phys LocalApic.windowSize with
      | .ok window => pure (.ok { window, physBase := phys })
      | .error e => pure (.error (LocalApicError.map e))
    match mapped with
    | .error .alreadyInitialized => pure (.error .alreadyInitialized)
    | .error (.failed e) => pure (.error e)
    | .ok apic => do
      apic.enable 0
      apic.eoi
      update fun k => { k with apicIdSource := .localApic }
      log .debug s!"APIC: Physical base {hex0x phys.toNat}"
      log .debug "APIC: Initialized"
      pure (.ok apic)

/-- **Enable the Local APIC of another processor.** -/
def initLocalApicAp (cpu : Nat) : Boot X (Except LocalApicError Unit) := do
  match (← kernel).localApic.get? with
  | none => pure (.error .notInitialized)
  | some apic => do
    let _ ← enableGlobal
    apic.enable cpu
    pure (.ok ())

/-- Wait for some milliseconds on the machine's interval timer. -/
def delayMs (ms : UInt32) : Boot X Unit :=
  Pit.pollDelay ports Pit.defaultPatience ms

/-- The rates between which a timer is plausible, in hertz. -/
def minPlausibleRate : UInt64 := 1000000

@[inherit_doc minPlausibleRate] def maxPlausibleRate : UInt64 := 10000000000

/-- **Measure the Local APIC's timer** and remember its rate for every processor. -/
def calibrateTimer : Boot X (Except TimerError UInt64) := do
  match (← kernel).localApic.get? with
  | none => pure (.error .noApic)
  | some apic => do
    match ← apic.measure delayMs with
    | .error e => pure (.error e)
    | .ok rate => do
      if rate < minPlausibleRate ∨ maxPlausibleRate < rate then
        log .info (s!"APIC TIMER: WARNING - {rate.toNat} Hz outside expected range " ++
          s!"[{minPlausibleRate.toNat}, {maxPlausibleRate.toNat}]")
      update fun k => { k with timerRate := rate }
      let whole := rate.toNat / 1000000
      let rest := threePlaces (rate.toNat % 1000000 / 1000)
      log .info (s!"APIC TIMER: Calibrated at {whole}.{rest} MHz ({rate.toNat} Hz, " ++
        "div 16, via PIT)")
      pure (.ok rate)

/-- **Start the executing processor's tick.** -/
def startPeriodic (vector : UInt8) (hz : UInt32) : Boot X (Except TimerError Unit) := do
  match (← kernel).localApic.get? with
  | none => pure (.error .noApic)
  | some apic => do
    match ← apic.programPeriodic vector hz (← kernel).timerRate with
    | .error e => pure (.error e)
    | .ok count => do
      log .debug (s!"APIC TIMER: Periodic mode - vector {hex0x vector.toNat}, {hz.toNat} Hz, " ++
        s!"count {count.toNat}")
      pure (.ok ())

/-- Map the register window of an I/O APIC. -/
def mapIoApic (paging : KernelPaging X) (info : Acpi.IoApicInfo) :
    Boot X (Except IoApicError Window) := do
  let phys ← Address.physical info.address.toUInt64
  match ← Window.map paging phys IoApic.windowSize with
  | .ok w => pure (.ok w)
  | .error e => pure (.error (.map e))

/-- **Bring up the machine's I/O APIC**, with the executing processor as its destination. -/
def initIoApic {T : Type} [Acpi.PlatformTables T] (platform : T) (paging : KernelPaging X) :
    Boot X (Except IoApicError (IoApic Window)) := do
  log .debug "IOAPIC: Initializing..."
  let boot ← currentApicId
  match ← ioApicSlot.tryInit (IoApic.probe platform boot.toUInt8 (mapIoApic paging)) with
  | .error .alreadyInitialized => fatal .ioApicTwice
  | .error (.failed e) => do
    log .info s!"IOAPIC: Initialization failed: {e.describe}"
    pure (.error e)
  | .ok a => do
    log .debug "IOAPIC: Initialized"
    pure (.ok a)

section Choice

variable {T : Type} [Acpi.PlatformTables T]

/-- Tell the firmware which interrupt model is in use. -/
def changeModel (platform : T) (model : Acpi.InterruptModel) : Boot X (Bool × T) := do
  let reply := Acpi.PlatformTables.changeModel platform model
  logAll reply.lines
  pure (reply.accepted, reply.platform)

/-- Pair the Local APIC with an I/O APIC. Without one, the 8259 pair has to come through. -/
def pairApics (cfg : Config) (platform : T) (paging : KernelPaging X) (apic : LocalApic Window) :
    Boot X (Option (ApicController Window Window)) := do
  match ← initIoApic platform paging with
  | .error e => do
    log .info s!"IRQ: No usable I/O APIC ({e.describe}), staying on the 8259 PIC"
    apic.routeLegacyPic
    pure none
  | .ok ioApic => do
    match ← apicControllerSlot.init
        (pure { localApic := apic, ioApic, irqBase := cfg.masterBase }) with
    | some c => pure (some c)
    | none => do
      apic.routeLegacyPic
      pure none

/-- **The APICs as a controller**, if they can be used. -/
def tryApics (cfg : Config) (platform : T) (paging : KernelPaging X) :
    Boot X (Option (ApicController Window Window) × T) := do
  if cfg.forcePic then
    log .info "IRQ: APIC disabled on the command line"
    pure (none, platform)
  else do
    let supported ← askHardware Behaviour.hasLocalApic
    if !(supported && Acpi.PlatformTables.supported platform) then
      log .info "IRQ: No APIC support, using the 8259 PIC"
      pure (none, platform)
    else do
      let (accepted, platform) ← changeModel platform .apic
      if !accepted then
        log .info "IRQ: Firmware refused APIC mode"
        pure (none, platform)
      else do
        match ← initLocalApic paging (Acpi.PlatformTables.hasLegacyPics platform) with
        | .error e => do
          log .info s!"IRQ: Local APIC unavailable: {e.describe}"
          pure (none, platform)
        | .ok apic => do
          let c ← pairApics cfg platform paging apic
          pure (c, platform)

/-- Log that the tick could not be started. -/
def logTimer (r : Except TimerError Unit) : Boot X Unit := do
  match r with
  | .ok () => pure ()
  | .error e => log .warn s!"IRQ: LAPIC timer not started: {e.describe}"

/-- Measure the timer and start the tick on the boot processor. -/
def startApicTick (irqBase : UInt8) (hz : UInt32) : Boot X Unit := do
  match ← calibrateTimer with
  | .error e => logTimer (.error e)
  | .ok _ => logTimer (← startPeriodic irqBase hz)

/-- **Set up the controllers and the tick.** Answers which controllers are in charge. -/
def initControllers (cfg : Config) (platform : T) (paging : KernelPaging X) :
    Boot X (IrqMode × T) := do
  log .debug "IRQ: Initializing..."
  onPic fun p => pure (p.setOffsets cfg.masterBase cfg.slaveBase)
  let (mode, platform) ← do
    match ← tryApics cfg platform paging with
    | (some c, platform) => do
      setActive (.apic c)
      startApicTick c.irqBase cfg.timerHz
      pure (IrqMode.apic, platform)
    | (none, platform) => do
      let (_, platform) ← changeModel platform .pic
      onPic Pic.enable
      setActive .pic
      let hz ← Pit.setFrequency ports cfg.timerHz
      log .info s!"IRQ: PIT tick at {hz.toNat} Hz"
      pure (IrqMode.pic, platform)
  update fun k => { k with mode := mode }
  match ← installHandler Pic.timerLine (.tick { hz := cfg.timerHz }) none with
  | .ok _ => pure ()
  | .error e => log .warn s!"IRQ: Cannot install the tick handler: {e.describe}"
  log .debug s!"IRQ: Initialized ({mode.name})"
  pure (mode, platform)

end Choice

/-- **The part of another processor**: its own Local APIC and tick, when the APICs are in charge. -/
def initControllersAp (cpu : Nat) (cfg : Config) : Boot X Unit := do
  if (← kernel).mode = .apic then
    match ← initLocalApicAp cpu with
    | .error e => log .warn s!"IRQ: CPU {cpu} Local APIC: {e.describe}"
    | .ok () =>
      match (← kernel).apicController.get? with
      | none => pure ()
      | some c => do logTimer (← startPeriodic c.irqBase cfg.timerHz)

end Boot

end Interrupts
