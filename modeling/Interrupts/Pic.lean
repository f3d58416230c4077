import Interrupts.Bus
import Interrupts.Irq.Dispatch

/-!
# The pair of 8259 controllers

The master serves lines 0 to 7, the slave lines 8 to 15, and the slave reports to the master on
line 2. Each chip is programmed by a sequence of four initialisation words, the first on its
command port and the rest on its data port, and keeps a mask that is read and written through the
data port. The pair remembers the vectors it was told to deliver on.

A delivery is over when the chip that made it has been told so, and for a slave line the master as
well. A delivery without a line in service is spurious: the chip raised it and took it back.
-/

namespace Interrupts

/-- **The pair of controllers** behind a port bus, with the first vector of each. -/
structure Pic (P : Type) where
  ports : P
  master : UInt8 := 0x20
  slave : UInt8 := 0x28
  deriving DecidableEq, Repr

namespace Pic

/-- The ports of the two chips. -/
def masterCommand : UInt16 := 0x20

@[inherit_doc masterCommand] def masterData : UInt16 := 0x21

@[inherit_doc masterCommand] def slaveCommand : UInt16 := 0xa0

@[inherit_doc masterCommand] def slaveData : UInt16 := 0xa1

/-- The number of lines. -/
def lines : Nat := 16

/-- The master's line that the slave reports on. -/
def cascadeLine : UInt8 := 2

/-- The lines that the legacy devices are wired to: the interval timer, the keyboard, the first
serial port and the mouse. -/
def timerLine : UInt8 := 0

@[inherit_doc timerLine] def keyboardLine : UInt8 := 1

@[inherit_doc timerLine] def serialLine : UInt8 := 4

@[inherit_doc timerLine] def mouseLine : UInt8 := 12

/-- The command that ends the delivery in service with the highest priority. -/
def eoiCommand : UInt8 := 0x20

/-- The first initialisation word: a fourth word will follow. -/
def initCommand : UInt8 := 0x11

/-- The fourth initialisation word: 8086 mode. -/
def mode8086 : UInt8 := 0x01

/-- The commands that select a register for the next reads of the command port: the requests, or
the lines in service. -/
def readRequests : UInt8 := 0x0a

@[inherit_doc readRequests] def readInService : UInt8 := 0x0b

variable {P : Type}

/-- The first vectors of master and slave. -/
def offsets (p : Pic P) : UInt8 × UInt8 :=
  (p.master, p.slave)

/-- Choose the vectors for the next programming of the chips. -/
def setOffsets (p : Pic P) (master slave : UInt8) : Pic P :=
  { p with master, slave }

/-- A vector is one of the eight from `base` on that do not wrap. -/
def inRange (base vector : UInt8) : Bool :=
  base ≤ vector && vector.toNat < min (base.toNat + 8) 255

/-- **The line behind a vector**, if it is one of the pair's. -/
def lineForVector (p : Pic P) (vector : UInt8) : Option UInt8 :=
  if inRange p.master vector then some (vector - p.master)
  else if inRange p.slave vector then some (vector - p.slave + 8)
  else none

/-- The lowest line of a set. -/
def lowestLine (set : UInt16) : Option UInt8 :=
  ((List.range 16).find? fun line => set.toNat.testBit line).map UInt8.ofNat

section Drive

variable {m : Type → Type} [Monad m] [PortBus P m]

/-- Write a port and give the chip time. -/
def command (p : Pic P) (port : UInt16) (value : UInt8) : m Unit := do
  PortBus.write8 p.ports port value
  PortBus.pause p.ports

/-- **Program both chips with new vectors**, keeping their masks. -/
def remap [Logger m] (p : Pic P) (master slave : UInt8) : m (Pic P) := do
  let masterMask ← PortBus.read8 p.ports masterData
  let slaveMask ← PortBus.read8 p.ports slaveData
  p.command masterCommand initCommand
  p.command slaveCommand initCommand
  p.command masterData master
  p.command slaveData slave
  p.command masterData (1 <<< cascadeLine)
  p.command slaveData cascadeLine
  p.command masterData mode8086
  p.command slaveData mode8086
  PortBus.write8 p.ports masterData masterMask
  PortBus.write8 p.ports slaveData slaveMask
  log .debug s!"PIC: Remapped to {hex0x master.toNat}/{hex0x slave.toNat}"
  pure { p with master, slave }

/-- Write both masks. -/
def writeMasks (p : Pic P) (mask : UInt8) : m Unit := do
  PortBus.write8 p.ports masterData mask
  PortBus.write8 p.ports slaveData mask

/-- **Program both chips** with the chosen vectors and unmask every line. -/
def enable [Logger m] (p : Pic P) : m (Pic P) := do
  let p' ← p.remap p.master p.slave
  p'.writeMasks 0x00
  pure p'

/-- **Program both chips** with the chosen vectors and mask every line, so that a stray delivery
cannot land on the vector of an exception. -/
def disable [Logger m] (p : Pic P) : m (Pic P) := do
  let p' ← p.remap p.master p.slave
  p'.writeMasks 0xff
  log .debug "PIC: All lines masked"
  pure p'

/-- **End a delivery on a line**: the slave first for its lines, and the master always. -/
def endOfInterrupt (p : Pic P) (irq : UInt8) : m Unit := do
  if 8 ≤ irq then
    PortBus.write8 p.ports slaveCommand eoiCommand
  PortBus.write8 p.ports masterCommand eoiCommand

/-- Read a register of both chips, the slave's in the high byte. -/
def readPair (p : Pic P) (select : UInt8) : m UInt16 := do
  PortBus.write8 p.ports masterCommand select
  PortBus.write8 p.ports slaveCommand select
  let master ← PortBus.read8 p.ports masterCommand
  let slave ← PortBus.read8 p.ports slaveCommand
  pure ((slave.toUInt16 <<< 8) ||| master.toUInt16)

/-- The lines with a request. -/
def requests (p : Pic P) : m UInt16 :=
  p.readPair readRequests

/-- The lines in service. -/
def inService (p : Pic P) : m UInt16 :=
  p.readPair readInService

/-- **The line in service with the highest priority**, the cascade left aside. -/
def lineInService (p : Pic P) : m (Option UInt8) := do
  let set ← p.inService
  pure (lowestLine (set &&& ~~~((1 : UInt16) <<< cascadeLine.toUInt16)))

/-- The masks of both chips, the slave's in the high byte. -/
def masks (p : Pic P) : m UInt16 := do
  let slave ← PortBus.read8 p.ports slaveData
  let master ← PortBus.read8 p.ports masterData
  pure ((slave.toUInt16 <<< 8) ||| master.toUInt16)

/-- The data port and the bit of a line. -/
def maskPlace (irq : UInt8) : UInt16 × UInt8 :=
  if irq < 8 then (masterData, irq) else (slaveData, irq - 8)

/-- **Mask a line**; there is nothing to do for a line that does not exist. -/
def maskLine (p : Pic P) (irq : UInt8) : m Unit := do
  if irq.toNat < lines then
    let (port, bit) := maskPlace irq
    let old ← PortBus.read8 p.ports port
    PortBus.write8 p.ports port (old ||| ((1 : UInt8) <<< bit))

/-- **Unmask a line**; unmasking a line of the slave also opens the master's line for it. -/
def unmaskLine (p : Pic P) (irq : UInt8) : m Unit := do
  if irq.toNat < lines then
    let (port, bit) := maskPlace irq
    let old ← PortBus.read8 p.ports port
    PortBus.write8 p.ports port (old &&& ~~~((1 : UInt8) <<< bit))
    if 8 ≤ irq then
      let master ← PortBus.read8 p.ports masterData
      PortBus.write8 p.ports masterData (master &&& ~~~((1 : UInt8) <<< cascadeLine))

/-- **The line a delivery is for**: the one in service, if the vector is one of the pair's. -/
def currentIrq [Logger m] (p : Pic P) (vector : UInt8) : m (Option UInt8) := do
  match p.lineForVector vector with
  | none => pure none
  | some line => do
    match ← p.lineInService with
    | some irq => pure (some irq)
    | none => do
      if line &&& 7 = 7 then
        log .trace s!"PIC: Spurious IRQ {line.toNat}"
      pure none

/-- **End the delivery on a vector.** A spurious delivery of a slave line was still a delivery of
the master. -/
def acknowledge (p : Pic P) (vector : UInt8) (irq : Option UInt8) : m Unit := do
  match irq with
  | some irq => p.endOfInterrupt irq
  | none =>
    match p.lineForVector vector with
    | some line => do
      if 8 ≤ line then
        PortBus.write8 p.ports masterCommand eoiCommand
    | none => pure ()

/-- The pair's name in log lines. -/
def name : String := "8259 PIC"

instance [Logger m] : Controller (Pic P) m where
  name _ := name
  lineCount _ := pure lines
  currentIrq := currentIrq
  eoi := acknowledge
  maskLine := maskLine
  unmaskLine := unmaskLine

end Drive

end Pic

end Interrupts
