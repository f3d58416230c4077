import Interrupts.ApicController
import Interrupts.Config
import Interrupts.Exception.Table
import Interrupts.GateTable
import Interrupts.OneShot
import Interrupts.Pic
import Interrupts.Processor.Launch
import Interrupts.Serial
import Interrupts.Tick

/-!
# The state of the kernel

The interrupt core keeps a handful of things for the whole system: the tables of gates, of
exceptions, of interrupt lines and of processors, the controllers it set up, the configuration, and
the count of ticks. `Kernel` is all of them together with the hardware they drive.

Nothing is said here about that hardware, or about the handlers, controllers and paging that the
rest of a system brings along. `Surroundings` names their types and `Behaviour` says what they do,
each as a function of the state of the hardware; everything the core does is defined for any
surroundings.
-/

namespace Interrupts

/-- **The types of what surrounds the core.** -/
structure Surroundings where
  /-- The state of the hardware, and of everything else outside the core. -/
  Hardware : Type
  /-- Handlers of interrupt lines. -/
  Device : Type
  /-- Handlers of exceptions. -/
  FaultCode : Type
  /-- Interrupt controllers from outside the core. -/
  External : Type
  /-- The kernel's paging. -/
  PagingCode : Type
  /-- Hooks that are run on every tick. -/
  Hook : Type

/-- What a controller from outside the core answers: the hardware afterwards, and log lines. -/
structure Effect (α η : Type) where
  value : α
  lines : List Record
  hardware : η

/-- **What the surroundings do.** -/
class Behaviour (X : Surroundings) where
  /-- Read an I/O port. -/
  portRead : UInt16 → X.Hardware → UInt8 × X.Hardware
  /-- Write an I/O port. -/
  portWrite : UInt16 → UInt8 → X.Hardware → X.Hardware
  /-- Read a word of memory. -/
  load : UInt64 → X.Hardware → UInt32 × X.Hardware
  /-- Write a word of memory. -/
  store : UInt64 → UInt32 → X.Hardware → X.Hardware
  /-- Read plain memory. -/
  fetch : UInt64 → Nat → X.Hardware → Bytes
  /-- Write plain memory. -/
  place : UInt64 → Bytes → X.Hardware → X.Hardware
  /-- Read a model-specific register. -/
  readMsr : UInt32 → X.Hardware → UInt64 × X.Hardware
  /-- Write a model-specific register. -/
  writeMsr : UInt32 → UInt64 → X.Hardware → X.Hardware
  /-- Point the processor at the interrupt descriptor table. -/
  loadIdt : X.Hardware → X.Hardware
  /-- Halt until the next interrupt. -/
  halt : X.Hardware → X.Hardware
  /-- The processor has a Local APIC. -/
  hasLocalApic : X.Hardware → Bool
  /-- The register that holds the address of the top-level page table. -/
  cr3 : X.Hardware → UInt64
  /-- The limit and the base of the kernel's descriptor table. -/
  gdt : X.Hardware → UInt16 × UInt64
  /-- The address of the interrupt descriptor table. -/
  idtAddress : UInt64
  /-- The address of the entry stub of vector 0. -/
  stubBase : UInt64
  /-- The address that started processors call. -/
  entryAddress : UInt64
  /-- The trampoline image. -/
  image : TrampolineImage
  /-- Memory that is never given back. -/
  allocate : Nat → X.Hardware → Option UInt64 × X.Hardware
  /-- The APIC ids of the processors that reported themselves online since the last time. -/
  arrivals : X.Hardware → List UInt32 × X.Hardware
  /-- Take a log line, where no serial port does. -/
  console : String → X.Hardware → X.Hardware
  /-- The name of a handler. -/
  deviceName : X.Device → String
  /-- Serve a delivery on a line. -/
  serve : X.Device → UInt8 → Frame → X.Hardware → (Verdict × Frame) × X.Hardware
  /-- What a handler of exceptions does. -/
  react : X.FaultCode → Frame → Reaction X.FaultCode
  /-- The controllers from outside the core. -/
  externalName : X.External → String
  externalLines : X.External → X.Hardware → Nat
  externalIrq : X.External → UInt8 → X.Hardware → Effect (Option UInt8) X.Hardware
  externalEoi : X.External → UInt8 → Option UInt8 → X.Hardware → Effect Unit X.Hardware
  externalMask : X.External → UInt8 → X.Hardware → Effect Unit X.Hardware
  externalUnmask : X.External → UInt8 → X.Hardware → Effect Unit X.Hardware
  /-- The kernel's paging. -/
  mapDevice : X.PagingCode → UInt64 → UInt64 → X.Hardware → Except PagingError UInt64
  identityMap : X.PagingCode → UInt64 → UInt64 → X.Hardware → Except PagingError Unit
  unmap : X.PagingCode → UInt64 → UInt64 → X.Hardware → Except PagingError Unit
  /-- Run a hook with the number of a tick. -/
  runHook : X.Hook → UInt64 → X.Hardware → X.Hardware

/-- The port bus of the real machine. -/
structure MachinePorts where
  deriving DecidableEq, Repr, Inhabited

/-- **Where log lines go.** -/
inductive LogBackend where
  /-- Nowhere yet. -/
  | absent
  /-- To the surroundings. -/
  | console
  /-- To the serial port. -/
  | serial
  deriving DecidableEq, Repr, Inhabited

/-- **How the core learns the APIC id of the executing processor.** -/
inductive ApicIdSource where
  /-- It does not know yet; only the boot processor runs. -/
  | unset
  /-- From the Local APIC. -/
  | localApic
  /-- It was told. -/
  | told (id : UInt32)
  deriving DecidableEq, Repr, Inhabited

/-- **A handler of an interrupt line**: the tick, or one from outside the core. -/
inductive KernelHandler (X : Surroundings) where
  | tick (t : TimerTick)
  | device (d : X.Device)

/-- **The controller in charge.** -/
inductive ActiveController (X : Surroundings) where
  /-- The kernel's pair of 8259 controllers. -/
  | pic
  /-- The kernel's APICs. -/
  | apic (c : ApicController Window Window)
  /-- A controller from outside the core. -/
  | external (c : X.External)

/-- **The paging in use.** -/
inductive KernelPaging (X : Surroundings) where
  /-- The boot loader's direct map. -/
  | direct (d : DirectMap)
  /-- The kernel's own. -/
  | registered (p : X.PagingCode)

/-- **The state of the kernel and of its hardware.** -/
structure Kernel (X : Surroundings) where
  hardware : X.Hardware
  logLevel : Level := .standard
  backend : LogBackend := .absent
  /-- The serial port is programmed. -/
  serialReady : Bool := false
  apicIdSource : ApicIdSource := .unset
  /-- The offset of the direct map. -/
  directMap : OneShot UInt64 := .unclaimed
  /-- The kernel's own paging, once it is registered. -/
  paging : Option X.PagingCode := none
  /-- The boot loader's paging, as it was when it was first needed. -/
  bootPaging : Option DirectMap := none
  gates : GateTable := .empty
  exceptions : ExceptionTable X.FaultCode := .empty
  registry : Registry (KernelHandler X) := .empty
  active : Option (ActiveController X) := none
  processors : ProcessorTable := {}
  /-- The number of ticks so far. -/
  ticks : UInt64 := 0
  tickHook : Option X.Hook := none
  pic : Pic MachinePorts := { ports := {} }
  localApic : OneShot (LocalApic Window) := .unclaimed
  ioApic : OneShot (IoApic Window) := .unclaimed
  apicController : OneShot (ApicController Window Window) := .unclaimed
  /-- The measured rate of the Local APIC's timer, or 0. -/
  timerRate : UInt64 := 0
  mode : IrqMode := .uninitialized
  config : OneShot Config := .unclaimed

/-- **The monad of the kernel**: its state, and the ways it can stop. What happened before a stop
is not undone. -/
abbrev Boot (X : Surroundings) := EStateM Stop (Kernel X)

namespace Boot

variable {X : Surroundings}

/-- The state of the kernel. -/
def kernel : Boot X (Kernel X) :=
  getThe (Kernel X)

/-- Change the state of the kernel. -/
def update (f : Kernel X → Kernel X) : Boot X Unit :=
  modifyThe (Kernel X) f

/-- Let the hardware make a step that answers something. -/
def onHardware {α : Type} (f : X.Hardware → α × X.Hardware) : Boot X α :=
  modifyGetThe (Kernel X) fun k =>
    let (a, hw) := f k.hardware
    (a, { k with hardware := hw })

/-- Let the hardware make a step. -/
def stepHardware (f : X.Hardware → X.Hardware) : Boot X Unit :=
  update fun k => { k with hardware := f k.hardware }

/-- Look at the hardware. -/
def askHardware {α : Type} (f : X.Hardware → α) : Boot X α := do
  pure (f (← kernel).hardware)

variable [Behaviour X]

/-- Raise the flags of the processors that came online meanwhile. -/
def noticeArrivals : Boot X Unit := do
  let ids ← onHardware Behaviour.arrivals
  update fun k => { k with processors := ids.foldl ProcessorTable.markStartedId k.processors }

instance : PortBus MachinePorts (Boot X) where
  read8 _ port := onHardware (Behaviour.portRead port)
  write8 _ port value := do
    stepHardware (Behaviour.portWrite port value)
    noticeArrivals

/-- The port bus of the machine. -/
def ports : MachinePorts := {}

/-- **Offer a log line**: it is dropped when its level does not pass or nobody takes it. -/
def emit (level : Level) (text : String) : Boot X Unit := do
  let k ← kernel
  if k.logLevel.passes level then
    match k.backend with
    | .absent => pure ()
    | .console => stepHardware (Behaviour.console text)
    | .serial => do
      Serial.write ports text
      Serial.write ports "\n"

instance : Logger (Boot X) where
  log := emit

instance : RegisterBus Window (Boot X) where
  read32 w offset := do
    let address ← w.readAddress offset
    onHardware (Behaviour.load address)
  write32 w offset value := do
    let address ← w.writeAddress offset
    stepHardware (Behaviour.store address value)

instance : PhysicalMemory (Boot X) where
  fetch address length := askHardware (Behaviour.fetch address length)
  place address bytes := stepHardware (Behaviour.place address bytes)

instance : StackSource (Boot X) where
  allocate size := onHardware (Behaviour.allocate size)

instance : Paging (KernelPaging X) (Boot X) where
  mapDevice p phys length := match p with
    | .direct d => pure (d.mapDevice phys length)
    | .registered c => askHardware (Behaviour.mapDevice c phys length)
  identityMap p start length := match p with
    | .direct d => pure (d.withinWindow start length)
    | .registered c => askHardware (Behaviour.identityMap c start length)
  unmap p start length := match p with
    | .direct d => pure (d.withinWindow start length)
    | .registered c => askHardware (Behaviour.unmap c start length)

instance : MonadStateOf ProcessorTable (Boot X) where
  get := do pure (← getThe (Kernel X)).processors
  set t := modifyThe (Kernel X) fun k => { k with processors := t }
  modifyGet f := modifyGetThe (Kernel X) fun k =>
    let (a, t) := f k.processors
    (a, { k with processors := t })

instance : MonadStateOf (ExceptionTable X.FaultCode) (Boot X) where
  get := do pure (← getThe (Kernel X)).exceptions
  set t := modifyThe (Kernel X) fun k => { k with exceptions := t }
  modifyGet f := modifyGetThe (Kernel X) fun k =>
    let (a, t) := f k.exceptions
    (a, { k with exceptions := t })

instance : FaultHandler X.FaultCode where
  react := Behaviour.react

/-- Carry out what a controller from outside the core does, and log what it has to say. -/
def carryOut {α : Type} (f : X.Hardware → Effect α X.Hardware) : Boot X α := do
  let effect ← askHardware f
  stepHardware fun _ => effect.hardware
  logAll effect.lines
  pure effect.value

/-- **The controller in charge, as the dispatcher sees it.** The 8259 pair is asked with the
vectors it has now. -/
instance : Controller (ActiveController X) (Boot X) where
  name
    | .pic => Pic.name
    | .apic _ => ApicController.name
    | .external c => Behaviour.externalName c
  lineCount
    | .pic => pure Pic.lines
    | .apic c => pure c.lines
    | .external c => askHardware (Behaviour.externalLines c)
  currentIrq
    | .pic, vector => do (← kernel).pic.currentIrq vector
    | .apic c, vector => c.currentIrq vector
    | .external c, vector => carryOut (Behaviour.externalIrq c vector)
  eoi
    | .pic, vector, irq => do (← kernel).pic.acknowledge vector irq
    | .apic c, vector, irq => c.acknowledge vector irq
    | .external c, vector, irq => carryOut (Behaviour.externalEoi c vector irq)
  maskLine
    | .pic, irq => do (← kernel).pic.maskLine irq
    | .apic c, irq => c.maskLine irq
    | .external c, irq => carryOut (Behaviour.externalMask c irq)
  unmaskLine
    | .pic, irq => do (← kernel).pic.unmaskLine irq
    | .apic c, irq => c.unmaskLine irq
    | .external c, irq => carryOut (Behaviour.externalUnmask c irq)

/-- The singletons, as cells of the kernel's state. -/
def directMapSlot : Slot (Boot X) UInt64 where
  look := do pure (← kernel).directMap
  put c := update fun k => { k with directMap := c }

@[inherit_doc directMapSlot] def localApicSlot : Slot (Boot X) (LocalApic Window) where
  look := do pure (← kernel).localApic
  put c := update fun k => { k with localApic := c }

@[inherit_doc directMapSlot] def ioApicSlot : Slot (Boot X) (IoApic Window) where
  look := do pure (← kernel).ioApic
  put c := update fun k => { k with ioApic := c }

@[inherit_doc directMapSlot]
def apicControllerSlot : Slot (Boot X) (ApicController Window Window) where
  look := do pure (← kernel).apicController
  put c := update fun k => { k with apicController := c }

@[inherit_doc directMapSlot] def configSlot : Slot (Boot X) Config where
  look := do pure (← kernel).config
  put c := update fun k => { k with config := c }

end Boot

end Interrupts
