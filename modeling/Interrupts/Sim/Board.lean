import Interrupts.Kernel.Boot
import Interrupts.Sim.Faults
import Interrupts.Sim.Firmware
import Interrupts.Sim.Lines
import Interrupts.Sim.Processors

/-!
# A board to run the whole core on

The board has a machine of ports, model-specific registers, regions of plain memory at their own
addresses, and the rig with the controllers and handlers from outside the core. Register windows are
plain memory too: a read gives back the last write. A processor is `responsive` when it answers to a
STARTUP; whether the last command in the Local APIC's registers was one for it is looked at whenever
the interval timer is latched, since that is what passes time.

`Board.surroundings` is what the core sees of all this.
-/

namespace Interrupts.Sim

/-- **A region of plain memory.** -/
structure Region where
  phys : UInt64
  bytes : Array UInt8

namespace Region

/-- A region of zeros. -/
def zeroed (phys : UInt64) (size : Nat) : Region :=
  ⟨phys, Array.replicate size 0⟩

/-- The region holds all bytes of a range. -/
def holds (r : Region) (address : UInt64) (length : Nat) : Bool :=
  r.phys ≤ address && address.toNat + length ≤ r.phys.toNat + r.bytes.size

/-- Write bytes from an offset on, as far as the region reaches. -/
def write (r : Region) (offset : Nat) : Bytes → Region
  | [] => r
  | b :: bs => write ⟨r.phys, r.bytes.setIfInBounds offset b⟩ (offset + 1) bs

/-- The word at an offset. -/
def word (r : Region) (offset : Nat) : UInt32 :=
  UInt32.ofNat (Bytes.decodeLE (r.bytes.extract offset (offset + 4)).toList)

/-- The words that are not zero, with their offsets. -/
def words (r : Region) : List (Nat × UInt32) :=
  ((List.range (r.bytes.size / 4)).map fun i => (i * 4, r.word (i * 4))).filter fun w => w.2 != 0

end Region

/-- **The state of the board.** -/
structure Board where
  ports : PortMachine := {}
  /-- Model-specific registers; the others are zero. -/
  msrs : List (UInt32 × UInt64) := []
  cr3 : UInt64 := 0x1000
  regions : List Region := []
  /-- The page that the trampoline is copied to. -/
  page : Region := .zeroed Trampoline.physAddress Trampoline.pageSize
  /-- What the board's paging refuses. -/
  mapFailures : List MapFailure := []
  identityError : Option PagingError := none
  unmapError : Option PagingError := none
  /-- The APIC ids of the processors that answer to a STARTUP. -/
  responsive : List UInt32 := []
  /-- Those that did and were not noticed yet. -/
  arrived : List UInt32 := []
  /-- Where the next stack is. -/
  nextStack : UInt64 := 0x200000
  /-- The captured log lines. -/
  console : Array String := #[]
  /-- The controllers and handlers from outside the core. -/
  rig : LineRig := {}
  /-- What the hook of the tick was given last. -/
  hooked : UInt64 := 0

namespace Board

/-- The region that holds a range of memory. -/
def region? (b : Board) (address : UInt64) (length : Nat) : Option Region :=
  (b.regions ++ [b.page]).find? fun r => r.holds address length

/-- The bytes of a range of memory; there are zeros where no region holds all of it. -/
def fetch (b : Board) (address : UInt64) (length : Nat) : Bytes :=
  match b.region? address length with
  | some r =>
    let offset := (address - r.phys).toNat
    (r.bytes.extract offset (offset + length)).toList
  | none => List.replicate length 0

/-- Write bytes in a region, if it holds their whole range. -/
def placeIn (address : UInt64) (bytes : Bytes) (r : Region) : Region :=
  if r.holds address bytes.length then r.write (address - r.phys).toNat bytes else r

/-- Write bytes in memory. -/
def place (b : Board) (address : UInt64) (bytes : Bytes) : Board :=
  { b with
    regions := b.regions.map (placeIn address bytes)
    page := placeIn address bytes b.page }

/-- The word at an address. -/
def load (b : Board) (address : UInt64) : UInt32 :=
  UInt32.ofNat (Bytes.decodeLE (b.fetch address 4))

/-- Write the word at an address. -/
def store (b : Board) (address : UInt64) (value : UInt32) : Board :=
  b.place address (Bytes.encodeLE 4 value.toNat)

/-- The physical address of the Local APIC's registers on every board. -/
def localApicBase : UInt64 := 0xfee00000

/-- The processor that the last command tells to start, if it was a STARTUP. -/
def startupTarget? (b : Board) : Option UInt32 :=
  let low := b.load (localApicBase + LocalApic.commandLow)
  let high := b.load (localApicBase + LocalApic.commandHigh)
  if (low >>> 8) &&& 7 = 6 then some (high >>> 24) else none

/-- A responsive processor that was told to start arrives. -/
def awaken (b : Board) : Board :=
  match b.startupTarget? with
  | none => b
  | some id => if b.responsive.contains id then { b with arrived := b.arrived ++ [id] } else b

/-- Write a port. -/
def portWrite (port : UInt16) (value : UInt8) (b : Board) : Board :=
  let b := { b with ports := PortMachine.write port value b.ports }
  if port = Pit.commandPort ∧ value = Pit.latchCommand then b.awaken else b

/-- Record an event of the machine. -/
def record (b : Board) (e : IoEvent) : Board :=
  { b with ports := b.ports.record e }

/-- Read a model-specific register. -/
def readMsr (register : UInt32) (b : Board) : UInt64 × Board :=
  let value := (b.msrs.lookup register).getD 0
  (value, b.record (.readMsr register value))

/-- Write a model-specific register. -/
def writeMsr (register : UInt32) (value : UInt64) (b : Board) : Board :=
  { b with msrs := putKey register value b.msrs }.record (.writeMsr register value)

/-- What becomes of a request to map a device. -/
def mapDevice (b : Board) (phys length : UInt64) : Except PagingError UInt64 :=
  match b.mapFailures.find? fun f => f.phys == phys && f.length.all (· == length) with
  | some f => .error f.error
  | none =>
    if b.regions.any fun r => r.holds phys length.toNat then .ok phys else .error .invalidRange

/-- What an operation of a controller of the rig answers, or `fallback` if it cannot go on. -/
def onRig {α : Type} (fallback : α) (operation : BenchM LineRig α) (b : Board) :
    Effect α Board :=
  match operation.run { device := b.rig } with
  | .ok value bench => ⟨value, bench.lines.toList, { b with rig := bench.device }⟩
  | .error _ bench => ⟨fallback, bench.lines.toList, { b with rig := bench.device }⟩

/-- Serve a delivery with a handler of the rig. -/
def serve (h : LineCase) (irq : UInt8) (f : Frame) (b : Board) : (Verdict × Frame) × Board :=
  let (answer, handlers) := h.serve irq f b.rig.handlers
  (answer, { b with rig := { b.rig with handlers } })

/-- Forget what the board has recorded. -/
def forget (b : Board) : Board :=
  { b with ports := b.ports.forget, rig := b.rig.forget, console := #[] }

/-- The board's paging. -/
structure BoardPaging where

/-- **What surrounds the core on a board.** A hook only remembers what it was given. -/
abbrev surroundings : Surroundings where
  Hardware := Board
  Device := LineCase
  FaultCode := FaultCase
  External := RigController
  PagingCode := BoardPaging
  Hook := Unit

instance : Behaviour surroundings where
  portRead port b :=
    let (value, ports) := PortMachine.read port b.ports
    (value, { b with ports })
  portWrite := portWrite
  load address b := (b.load address, b)
  store address value b := b.store address value
  fetch address length b := b.fetch address length
  place address bytes b := b.place address bytes
  readMsr := readMsr
  writeMsr := writeMsr
  loadIdt b := b.record .loadIdt
  halt b := b.record .halt
  hasLocalApic _ := true
  cr3 b := b.cr3
  gdt _ := (55, 0xffffffff80400000)
  idtAddress := 0xffffffff80300000
  stubBase := 0xffffffff80100000
  entryAddress := 0xffffffff80200000
  image := { bytes := List.replicate 244 0x90, paramsOffset := 48 }
  allocate size b := (some b.nextStack, { b with nextStack := b.nextStack + UInt64.ofNat size })
  arrivals b := (b.arrived, { b with arrived := [] })
  console line b := { b with console := b.console.push line }
  deviceName := LineCase.name
  serve := serve
  react := FaultCase.react
  externalName := RigController.name
  externalLines c b := c.lineCount b.rig
  externalIrq c vector := onRig none (Controller.currentIrq c vector)
  externalEoi c vector irq := onRig () (Controller.eoi c vector irq)
  externalMask c irq := onRig () (Controller.maskLine c irq)
  externalUnmask c irq := onRig () (Controller.unmaskLine c irq)
  mapDevice _ phys length b := b.mapDevice phys length
  identityMap _ _ _ b := match b.identityError with
    | some e => .error e
    | none => .ok ()
  unmap _ _ _ b := match b.unmapError with
    | some e => .error e
    | none => .ok ()
  runHook _ count b := { b with hooked := count }

/-- A kernel on a board that was just switched on. Its log lines are captured at a level, or not at
all. -/
def boot (board : Board) (capture : Option Level) : Kernel surroundings :=
  match capture with
  | none => { hardware := board }
  | some level => { hardware := board, logLevel := level, backend := .console }

/-- Forget what the board under a kernel has recorded. -/
def forgetRecorded (k : Kernel surroundings) : Kernel surroundings :=
  { k with hardware := k.hardware.forget }

/-- **Try something out on a part of a running kernel**, as on a bench. -/
def onBench {δ α : Type} (part : Socket (Kernel surroundings) δ) (trial : BenchM δ α) :
    Boot surroundings α := do
  match trial.run { device := part.get (← Boot.kernel) } with
  | .ok a b => do
    Boot.update (part.set b.device)
    logAll b.lines.toList
    pure a
  | .error e b => do
    logAll b.lines.toList
    throw e

/-- The rig of the board under a kernel. -/
def rigSocket : Socket (Kernel surroundings) LineRig :=
  ⟨fun k => k.hardware.rig, fun rig k => { k with hardware := { k.hardware with rig } }⟩

/-- The exception table of a kernel. -/
def faultSocket : Socket (Kernel surroundings) FaultRig :=
  ⟨fun k => { table := k.exceptions }, fun r k => { k with exceptions := r.table }⟩

/-- The processor table of a kernel. -/
def processorSocket : Socket (Kernel surroundings) ApRig :=
  ⟨fun k => { table := k.processors }, fun r k => { k with processors := r.table }⟩

/-- The monad of a board whose delays are only remembered. -/
abbrev TimedBoot := StateT (Array UInt32) (Boot surroundings)

instance : RegisterBus Window TimedBoot where
  read32 w offset := liftM (RegisterBus.read32 w offset : Boot surroundings UInt32)
  write32 w offset value := liftM (RegisterBus.write32 w offset value : Boot surroundings Unit)

instance : Logger TimedBoot where
  log level text := liftM (log level text : Boot surroundings Unit)

/-- A delay passes on a board: the word at `address` becomes the next of the counts, which start
over when they are used up. -/
def passTime (counts : Array UInt32) (address : UInt64) (ms : UInt32) : TimedBoot Unit := do
  let delays ← get
  set (delays.push ms)
  match counts[delays.size % counts.size]? with
  | some count =>
    liftM (Boot.stepHardware fun b => b.store address count : Boot surroundings Unit)
  | none => pure ()

/-- Carry on after the processor has halted for good. -/
def untilHalt (run : Boot surroundings Unit) : Boot surroundings Unit :=
  tryCatch run fun
    | .halted => pure ()
    | stop => throw stop

end Board

end Interrupts.Sim
