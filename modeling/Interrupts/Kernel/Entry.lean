import Interrupts.Kernel.Lines

/-!
# Entering the kernel

Every vector has an entry stub. Stubs are evenly spaced; each pushes a zero where the processor
pushes no error code, then its vector, and all go on to one common entry with a frame of the same
shape. The common entry sends exceptions to the exception table and interrupts to the registry, and
returns from a spurious delivery at once. An exception that nobody resolves is reported, and the
machine stops.
-/

namespace Interrupts.Boot

variable {X : Surroundings} [Behaviour X]

/-- The distance between stubs. -/
def stubStride : Nat := 16

/-- The address of a vector's stub. -/
def stubAddress (X : Surroundings) [Behaviour X] (v : UInt8) : UInt64 :=
  Behaviour.stubBase X + UInt64.ofNat (v.toNat * stubStride)

/-- **The frame that a stub builds** from the interrupted state. -/
def stubFrame (v : UInt8) (interrupted : Frame) : Frame :=
  { interrupted with
    vector := v.toUInt64
    errorCode := if Vectors.hasErrorCode v then interrupted.errorCode else 0 }

/-- Register a handler in the system's exception table. -/
def installException (v : UInt8) (h : X.FaultCode) : Boot X (Except ExceptionError Unit) :=
  ExceptionTable.installHere v h

/-- Remove a handler from the system's exception table. -/
def removeException (v : UInt8) : Boot X (Except ExceptionError Unit) :=
  ExceptionTable.removeHere X.FaultCode v

/-- Print the frame of a fatal exception and stop. -/
def reportFatal (r : FatalReport) (f : Frame) : Boot X Unit := do
  f.logDump
  fatal (.exception r)

/-- **The common entry.** Answers the frame that the interrupted program goes on with. -/
def enter (f : Frame) : Boot X Frame := do
  match Vectors.route f.vectorByte with
  | .exception => do
    let cpu ← currentCpu
    let (_, f') ← ExceptionTable.handle X.FaultCode f cpu reportFatal
    pure f'
  | .spurious => pure f
  | .irq => do
    let (_, f') ← dispatchIrq f
    pure f'

/-- **Deliver a vector**: through its stub and the common entry. -/
def deliver (v : UInt8) (interrupted : Frame) : Boot X Frame :=
  enter (stubFrame v interrupted)

/-- Point the executing processor at the table of gates. -/
def loadGates : Boot X Unit := do
  stepHardware Behaviour.loadIdt
  log .debug
    (s!"IDT: Loaded base={hex0x (Behaviour.idtAddress X).toNat} limit={hex0x GateTable.limit}")

/-- Close a gate; the gates of exceptions stay open. -/
def closeGate (v : UInt8) : Boot X Unit := do
  match (← kernel).gates.close v with
  | .ok t => update fun k => { k with gates := t }
  | .error e => log .warn e.message

/-- The gate of an exception: a trap gate for the two that programs raise on purpose. -/
def openException (t : GateTable) (v : UInt8) (target : UInt64) : GateTable :=
  if v = Vectors.breakpoint ∨ v = Vectors.overflow then t.openTrap v target
  else t.openInterrupt v target

/-- The vectors from `first` up to, but not including, `stop`. -/
def vectorsFrom (first stop : Nat) : List UInt8 :=
  (List.range (stop - first)).map fun i => UInt8.ofNat (first + i)

/-- **Open the gates of all exceptions** and use the table. -/
def initExceptions : Boot X Unit := do
  log .debug "IDT: Initializing..."
  update fun k => { k with
    gates := (vectorsFrom 0 Vectors.exceptionCount).foldl
      (fun t v => openException t v (stubAddress X v)) k.gates }
  loadGates
  log .debug "IDT: Initialized"

/-- Open the gates of all interrupts. -/
def openInterrupts : Boot X Unit :=
  update fun k => { k with
    gates := (vectorsFrom Vectors.exceptionCount 256).foldl
      (fun t v => t.openInterrupt v (stubAddress X v)) k.gates }

end Interrupts.Boot
