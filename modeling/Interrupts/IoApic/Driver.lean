import Interrupts.Acpi.Platform
import Interrupts.IoApic.Redirection
import Interrupts.Memory.Window

/-!
# The I/O APIC

An I/O APIC has many registers behind a window of two: writing the number of a register into the
first makes the second stand for it. Register 1 tells how many pins there are, and from register 16
on each pin has two, the low and the high half of its redirection entry. A half-written entry must
never deliver anything, so the high half is written first and the mask bit, which is in the low
half, decides last.

Legacy interrupts arrive at the pin of their own number, unless the firmware says otherwise. Pins
are counted through all I/O APICs of the machine, and this one serves those from `gsiBase` on.
-/

namespace Interrupts

/-- **Why an I/O APIC cannot do what it is asked.** -/
inductive IoApicError where
  /-- There are no tables that describe the APICs. -/
  | noTables
  /-- The tables list no I/O APIC. -/
  | noController
  /-- Its registers could not be mapped. -/
  | map (error : PagingError)
  /-- It does not serve this interrupt. -/
  | gsiOutOfRange (gsi : UInt32)
  /-- It was initialised before. -/
  | alreadyInitialized
  deriving DecidableEq, Repr

/-- The error as it is written in log lines. -/
def IoApicError.describe : IoApicError → String
  | noTables => "NoTables"
  | noController => "NoController"
  | map e => s!"Map({e.describe})"
  | gsiOutOfRange gsi => s!"GsiOutOfRange({gsi.toNat})"
  | alreadyInitialized => "AlreadyInitialized"

instance : ToString IoApicError := ⟨IoApicError.describe⟩

/-- **A legacy interrupt that arrives elsewhere.** -/
structure Override where
  gsi : UInt32
  polarity : PinPolarity
  trigger : PinTrigger
  deriving DecidableEq, Repr

/-- The override that the firmware asks for. The defaults of the legacy bus are active high and
edge triggered. -/
def Override.ofFirmware (o : Acpi.InterruptOverride) : Override where
  gsi := o.gsi
  polarity := match o.polarity with
    | .activeLow => .activeLow
    | _ => .activeHigh
  trigger := match o.triggerMode with
    | .level => .level
    | _ => .edge

/-- **An I/O APIC** behind a register window. -/
structure IoApic (R : Type) where
  window : R
  id : UInt8
  physAddress : UInt32
  /-- The first interrupt it serves. -/
  gsiBase : UInt32
  version : UInt32
  /-- The number of its pins. -/
  pins : UInt32
  overrides : Vector (Option Override) 16
  /-- The APIC id that unmasked interrupts are delivered to. -/
  destination : UInt8

namespace IoApic

/-- The length of the register window, and the two places in it. -/
def windowSize : UInt64 := 0x20

@[inherit_doc windowSize] def selectOffset : UInt64 := 0x00

@[inherit_doc windowSize] def dataOffset : UInt64 := 0x10

/-- The register that tells the version and the number of pins. -/
def versionRegister : UInt8 := 0x01

/-- The number of interrupts that can be overridden. -/
def legacyCount : Nat := 16

/-- The largest number of pins that an eight-bit register number can reach. -/
def maxPins : UInt32 := 120

/-- The register of a pin's low half. -/
def lowRegister (pin : UInt32) : UInt8 :=
  let index := 0x10 + pin * 2
  if 254 < index then 254 else index.toUInt8

/-- The register of a pin's high half. -/
def highRegister (pin : UInt32) : UInt8 :=
  lowRegister pin + 1

/-- The number of pins that a version register reports. -/
def reportedPins (version : UInt32) : UInt32 :=
  ((version >>> 16) &&& 0xff) + 1

/-- **The number of pins that are used**: the reported ones, as far as they can be reached. -/
def pinsOfVersion (version : UInt32) : UInt32 :=
  if maxPins < reportedPins version then maxPins else reportedPins version

variable {R : Type}

/-- The override of an interrupt, if there is one. -/
def override? (a : IoApic R) (irq : UInt8) : Option Override :=
  (a.overrides[irq.toNat]?).getD none

/-- **Where an interrupt arrives**: at its override, or at its own number. -/
def gsiOf (a : IoApic R) (irq : UInt8) : UInt32 :=
  match a.override? irq with
  | some o => o.gsi
  | none => irq.toUInt32

/-- The pin of an interrupt number, if this controller serves it. -/
def pinOf (a : IoApic R) (gsi : UInt32) : Except IoApicError UInt32 :=
  if a.gsiBase ≤ gsi ∧ gsi - a.gsiBase < a.pins then .ok (gsi - a.gsiBase)
  else .error (.gsiOutOfRange gsi)

/-- **The entry that delivers an interrupt on a vector.** -/
def entryFor (a : IoApic R) (irq vector : UInt8) : Redirection :=
  let plain := ((Redirection.fixed vector a.destination).withDeliveryMode .fixed).withLogical false
  match a.override? irq with
  | some o => (plain.withPolarity o.polarity).withTrigger o.trigger
  | none => plain

/-- Take note of an override that the firmware lists, if it is one of a legacy interrupt. -/
def noteOverride (a : IoApic R) (e : Acpi.MadtEntry) : Option (Acpi.InterruptOverride × IoApic R) :=
  match e with
  | .interruptOverride o =>
    if o.bus = 0 ∧ o.irq.toNat < legacyCount then
      some (o, { a with
        overrides := a.overrides.setIfInBounds o.irq.toNat (some (Override.ofFirmware o)) })
    else none
  | _ => none

section Drive

variable {m : Type → Type} [Monad m] [RegisterBus R m]

/-- Read a register through the window. -/
def readRegister (window : R) (register : UInt8) : m UInt32 := do
  RegisterBus.write32 window selectOffset register.toUInt32
  RegisterBus.read32 window dataOffset

/-- Write a register through the window. -/
def writeRegister (window : R) (register : UInt8) (value : UInt32) : m Unit := do
  RegisterBus.write32 window selectOffset register.toUInt32
  RegisterBus.write32 window dataOffset value

/-- **Write the entry of a pin**, the half with the mask bit last. -/
def writePin (window : R) (pin : UInt32) (e : Redirection) : m Unit := do
  writeRegister window (highRegister pin) e.high
  writeRegister window (lowRegister pin) e.low

/-- Mask `left` pins from `pin` on. -/
def maskFrom (window : R) : (left : Nat) → (pin : UInt32) → m Unit
  | 0, _ => pure ()
  | left + 1, pin => do
    writePin window pin .masked
    maskFrom window left (pin + 1)

/-- Take note of the overrides that the firmware lists, in order. -/
def scanOverrides [Logger m] : List Acpi.MadtEntry → IoApic R → m (IoApic R)
  | [], a => pure a
  | e :: es, a =>
    match a.noteOverride e with
    | none => scanOverrides es a
    | some (o, a') => do
      let mapped := Override.ofFirmware o
      log .debug (s!"IOAPIC: ISO IRQ {o.irq.toNat} -> GSI {mapped.gsi.toNat}, " ++
        s!"{mapped.polarity.name} {mapped.trigger.name}")
      scanOverrides es a'

/-- The controller that the firmware lists, before any override is noted. -/
def described (info : Acpi.IoApicInfo) (destination : UInt8) (window : R) (version : UInt32) :
    IoApic R where
  window := window
  id := info.id
  physAddress := info.address
  gsiBase := info.gsiBase
  version := version
  pins := pinsOfVersion version
  overrides := Vector.replicate 16 none
  destination := destination

/-- Say so when more pins are reported than can be reached. -/
def warnOfExcess [Logger m] (version : UInt32) : m Unit :=
  let reported := reportedPins version
  if maxPins < reported then
    log .warn s!"IOAPIC: Version reports {reported.toNat} entries, using {maxPins.toNat}"
  else pure ()

variable [MonadExceptOf Stop m]

/-- **Set up a controller behind its window**: mask every pin, and take note of the overrides. -/
def setUp [Logger m] {T : Type} [Acpi.PlatformTables T] (platform : T) (destination : UInt8)
    (info : Acpi.IoApicInfo) (window : R) : m (Except IoApicError (IoApic R)) := do
  let version ← readRegister window versionRegister
  warnOfExcess version
  maskFrom window (pinsOfVersion version).toNat 0
  let overrides := Acpi.PlatformTables.entriesOf platform Acpi.MadtEntry.overrideType
    Acpi.MadtEntry.overrideLength
  let a ← scanOverrides overrides (described info destination window version)
  let past ← addWord32 a.gsiBase a.pins
  let last := past - 1
  log .info (s!"IOAPIC: ID {hex0x a.id.toNat} @ phys {hex0x a.physAddress.toNat}, " ++
    s!"GSIs {a.gsiBase.toNat}-{last.toNat}, version {hex0x (a.version &&& 0xff).toNat}")
  pure (.ok a)

/-- **Find the first I/O APIC, map it, and set it up.** -/
def probe [Logger m] {T : Type} [Acpi.PlatformTables T] (platform : T) (destination : UInt8)
    (map : Acpi.IoApicInfo → m (Except IoApicError R)) : m (Except IoApicError (IoApic R)) := do
  if !Acpi.PlatformTables.supported platform then
    pure (.error .noTables)
  else
    match (Acpi.PlatformTables.search platform Acpi.MadtEntry.ioApicType
        Acpi.MadtEntry.ioApicLength .start).1 with
    | some (.ioApic info) => do
      match ← map info with
      | .error e => pure (.error e)
      | .ok window => setUp platform destination info window
    | _ => do
      log .info "IOAPIC: No controller described by firmware"
      pure (.error .noController)

/-- The refusal of a pin that does not exist, named by its interrupt number. -/
def refusePin {α : Type} (a : IoApic R) (pin : UInt32) : m (Except IoApicError α) := do
  let gsi ← addWord32 a.gsiBase pin
  pure (.error (.gsiOutOfRange gsi))

/-- **Read the entry of a pin.** -/
def readEntry (a : IoApic R) (pin : UInt32) : m (Except IoApicError Redirection) := do
  if pin < a.pins then
    let low ← readRegister a.window (lowRegister pin)
    let high ← readRegister a.window (highRegister pin)
    pure (.ok (.ofHalves low high))
  else a.refusePin pin

/-- **Write the entry of a pin.** -/
def writeEntry (a : IoApic R) (pin : UInt32) (e : Redirection) : m (Except IoApicError Unit) := do
  if pin < a.pins then
    writePin a.window pin e
    pure (.ok ())
  else a.refusePin pin

/-- **Deliver an interrupt on a vector.** -/
def enable [Logger m] (a : IoApic R) (irq vector : UInt8) : m (Except IoApicError Unit) := do
  let gsi := a.gsiOf irq
  match a.pinOf gsi with
  | .error e => pure (.error e)
  | .ok pin => do
    writePin a.window pin (a.entryFor irq vector)
    log .debug (s!"IOAPIC: IRQ {irq.toNat} -> GSI {gsi.toNat} -> vector {hex0x vector.toNat}, " ++
      s!"APIC {a.destination.toNat}")
    pure (.ok ())

/-- **Mask an interrupt**, keeping the rest of its entry. -/
def disable (a : IoApic R) (irq : UInt8) : m (Except IoApicError Unit) := do
  match a.pinOf (a.gsiOf irq) with
  | .error e => pure (.error e)
  | .ok pin => do
    match ← a.readEntry pin with
    | .error e => pure (.error e)
    | .ok entry => do
      writePin a.window pin (entry.withMasked true)
      pure (.ok ())

end Drive

end IoApic

end Interrupts
