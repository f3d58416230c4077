import Interrupts.Kernel.Controllers
import Interrupts.Kernel.Entry

/-!
# Booting

The boot processor opens the console, finds the firmware tables, opens the gates, sets up the
interrupt controllers and then starts the other processors, each of which comes back through the
trampoline to `enterProcessor`. The trampoline page is given back only when no processor can still
be executing from it.
-/

namespace Interrupts.Boot

variable {X : Surroundings} [Behaviour X]

/-- **Open the serial port** and send log lines there from now on. -/
def initSerial : Boot X Unit := do
  Serial.program ports
  update fun k => { k with serialReady := true, backend := .serial }

/-- **Announce the direct map**, once. -/
def initDirectMap (offset : UInt64) : Boot X Unit := do
  match ← directMapSlot.init (pure offset) with
  | some _ => pure ()
  | none => fatal .directMapTwice

/-- The virtual address of a physical one under the announced direct map. -/
def toVirtual (phys : UInt64) : Boot X (Option UInt64) := do
  pure ((← kernel).directMap.get?.bind fun offset => DirectMap.virtual? offset phys)

/-- Register the kernel's paging; only the first one counts. -/
def registerPaging (p : X.PagingCode) : Boot X Unit :=
  update fun k => { k with paging := some (k.paging.getD p) }

/-- **The paging in use**: the kernel's own, or else the direct map as it was announced when it
was first asked for. -/
def pagingInUse : Boot X (KernelPaging X) := do
  let k ← kernel
  match k.paging with
  | some p => pure (.registered p)
  | none =>
    match k.bootPaging with
    | some d => pure (.direct d)
    | none => do
      let d : DirectMap :=
        { offset := k.directMap.get?, identityLimit := DirectMap.defaultIdentityLimit }
      update fun k => { k with bootPaging := some d }
      pure (.direct d)

/-- The configuration of this boot, or the defaults before there is one. -/
def currentConfig : Boot X Config := do
  pure ((← kernel).config.get?.getD {})

/-- Halt until the next interrupt. -/
def halt : Boot X Unit :=
  stepHardware Behaviour.halt

/-- **Halt for good.** -/
def haltForever {α : Type} : Boot X α := do
  halt
  throw .halted

section Platform

variable {T : Type} [Acpi.PlatformTables T]

/-- **Set up interrupts on the boot processor**, once. -/
def initInterrupts (line : Option String) (platform : T) (paging : KernelPaging X) :
    Boot X (IrqMode × T) := do
  let cfg := Config.ofCommandLine line
  update fun k => { k with logLevel := cfg.logLevel }
  match ← configSlot.init (pure cfg) with
  | none => fatal .bootTwice
  | some _ => do
    openInterrupts
    initControllers cfg platform paging

/-- Set up interrupts on another processor. -/
def initInterruptsAp (cpu : Nat) : Boot X Unit := do
  loadGates
  initControllersAp cpu (← currentConfig)

/-- **What another processor does once it runs kernel code.** -/
def enterProcessor {α : Type} (cpuIndex : UInt64) : Boot X α := do
  let cpu := cpuIndex.toNat
  initInterruptsAp cpu
  update fun k => { k with processors := k.processors.markStarted cpu }
  let id ← currentApicId
  log .info s!"MP: CPU online (idx {cpu}, apic {hex0x id.toNat})"
  haltForever

/-- **Copy the trampoline to its page**, once the page is identity mapped. Answers the address of
the block of parameters. -/
def installTrampoline (paging : KernelPaging X) : Boot X (Except BringUpError UInt64) := do
  let image := Behaviour.image X
  match Trampoline.checkImage image.bytes.length with
  | .error e => pure (.error e)
  | .ok () => do
    match ← Paging.identityMap paging Trampoline.physAddress (UInt64.ofNat Trampoline.pageSize) with
    | .error e => do
      log .warn s!"MP: Cannot identity map the trampoline: {e.describe}"
      pure (.error .noIdentityWindow)
    | .ok () => do
      match ← Trampoline.check image with
      | .error e => pure (.error e)
      | .ok () => do
        PhysicalMemory.place Trampoline.physAddress image.bytes
        log .debug (s!"MP: Trampoline at {hex0x Trampoline.physAddress.toNat}, " ++
          s!"{image.bytes.length} bytes")
        pure (.ok (Trampoline.physAddress + image.paramsOffset))

/-- **Give the trampoline page back.** -/
def removeTrampoline (paging : KernelPaging X) : Boot X Unit := do
  match ← Paging.unmap paging Trampoline.physAddress (UInt64.ofNat Trampoline.pageSize) with
  | .ok () => pure ()
  | .error e => log .warn s!"MP: Cannot unmap the trampoline: {e.describe}"

/-- The bits of the register `cr3` that hold the address of the page table. -/
def pageTableMask : UInt64 := 0x000ffffffffff000

/-- **The parameters that are the same for all processors.** -/
def launchTemplate : Boot X LaunchParams := do
  let root := (← askHardware Behaviour.cr3) &&& pageTableMask
  match Trampoline.checkPageTables root with
  | .error e => fatal (.trampolinePageTables e)
  | .ok () => do
    let (gdtLimit, gdtBase) ← askHardware Behaviour.gdt
    pure { cr3 := root, entry := Behaviour.entryAddress X, gdtLimit, gdtBase }

/-- Start the listed processors through an installed trampoline, and give its page back. -/
def launchAll (cfg : Config) (paging : KernelPaging X) (apic : LocalApic Window)
    (blockAddress : UInt64) : Boot X BringUp := do
  let template ← launchTemplate
  let launcher : Launcher Window MachinePorts :=
    { localApic := apic, ports, blockAddress, budget := ⟨cfg.ipiSpins⟩, template }
  let outcome ← BringUp.run launcher
    { startPage := Trampoline.startPage, startupWait := ⟨cfg.smpSpins⟩ }
  match (← kernel).processors.ensureQuiescent with
  | .error e => fatal (.trampolineInUse e)
  | .ok () => do
    removeTrampoline paging
    pure outcome

/-- **Find and start the other processors.** -/
def initProcessors (platform : T) (paging : KernelPaging X) : Boot X BringUp := do
  let cfg ← currentConfig
  if !cfg.smp then
    log .info "MP: Disabled on the command line"
    pure .singleProcessor
  else
    match (← kernel).localApic.get? with
    | none => do
      log .info "MP: No Local APIC; skipping AP startup"
      pure .singleProcessor
    | some apic => do
      let boot ← currentApicId
      let count ← ProcessorTable.discoverHere boot (Acpi.PlatformTables.usableApicIds platform)
      log .info s!"MP: discovered {count} CPUs, BSP LAPIC {hex0x boot.toNat}"
      if count < 2 then
        log .info "MP: no secondary CPUs to start"
        pure .singleProcessor
      else
        match ← installTrampoline paging with
        | .error (.trampolineTooLarge size) => fatal (.trampolineImage (.trampolineTooLarge size))
        | .error e => do
          log .warn s!"MP: AP startup skipped: {e.describe}"
          pure .singleProcessor
        | .ok blockAddress => launchAll cfg paging apic blockAddress

end Platform

/-- The platform that the firmware tables under a root pointer describe. -/
def platformOf (paging : KernelPaging X) (root : UInt64) : Boot X (Option Acpi.MadtPlatform) := do
  match ← Acpi.Tables.fromRoot paging root with
  | none => pure none
  | some tables => do
    let madt ← Acpi.Madt.ofTables tables
    pure (some { madt })

/-- The platform described by the firmware, if the boot loader found its root pointer. -/
def findPlatform (paging : KernelPaging X) (root : Option UInt64) : Boot X Acpi.MadtPlatform := do
  let found ← match root with
    | none => pure none
    | some phys => platformOf paging phys
  match found with
  | some platform => pure platform
  | none => do
    log .info "BOOT: No ACPI tables found"
    pure .absent

/-- **The whole sequence on the boot processor.** -/
def run (line : Option String) (root : Option UInt64) : Boot X (IrqMode × BringUp) := do
  update fun k => { k with logLevel := .standard }
  initSerial
  let paging ← pagingInUse
  let platform ← findPlatform paging root
  initExceptions
  let (mode, platform) ← initInterrupts line platform paging
  let outcome ← initProcessors platform paging
  log .info s!"BOOT: Interrupt core up ({mode.name}, {outcome.describe})"
  pure (mode, outcome)

end Interrupts.Boot
