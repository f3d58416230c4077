import Interrupts.ApicController
import Interrupts.Pic
import Interrupts.Sim.Ports
import Interrupts.Sim.Registers
import Interrupts.Tick

/-!
# Controllers and line handlers to try the registry with

A rig holds the devices behind three kinds of controller: one that only records what it is told, a
pair of 8259 chips on a machine of ports, and the two APICs on a page and a window of registers. The
handlers record that they ran and claim or decline as they were told in advance.
-/

namespace Interrupts.Sim

/-- What a recording controller was told. -/
inductive ControllerCall where
  | eoi (vector : UInt8) (irq : Option UInt8)
  | mask (irq : UInt8)
  | unmask (irq : UInt8)
  deriving DecidableEq, Repr

/-- **A controller that records what it is told.** -/
structure RecordingController where
  /-- The vector of line 0. -/
  base : UInt8 := 0
  lines : Nat := 0
  /-- The answer for every vector, if there is one. -/
  fixed : Option (Option UInt8) := none
  calls : Array ControllerCall := #[]

namespace RecordingController

/-- The line behind a vector. -/
def lineOf (c : RecordingController) (vector : UInt8) : Option UInt8 :=
  match c.fixed with
  | some answer => answer
  | none => if c.base ≤ vector then some (vector - c.base) else none

/-- Record a call. -/
def record (c : RecordingController) (call : ControllerCall) : RecordingController :=
  { c with calls := c.calls.push call }

end RecordingController

/-- **A handler of a line**, told in advance what to say. -/
inductive LineCase where
  /-- Count in a register by `add`, and go through the verdicts in turn; `key` tells its calls from
  those of other handlers. -/
  | probe (key : Nat) (tag : String) (add : UInt64) (verdicts : Array Bool)
  /-- Claim, and show the line in a register. -/
  | claim (tag : String)
  /-- Decline, and show the line and a thousand in a register. -/
  | decline (tag : String)
  /-- Decline without a name. -/
  | anonymous
  /-- The tick, on some processor. -/
  | tick
  deriving Repr

/-- What the handlers leave behind: the number of calls of each, and a line for each call. -/
structure HandlerRig where
  calls : List (Nat × Nat) := []
  trace : Array (String × UInt8 × Nat) := #[]

namespace LineCase

/-- The handler's name. -/
def name : LineCase → String
  | probe _ tag _ _ => tag
  | claim tag => tag
  | decline tag => tag
  | anonymous => "anonymous"
  | tick => TimerTick.name

/-- A verdict in one word. -/
def verdict (handled : Bool) : Verdict :=
  if handled then .handled else .notMine

/-- **Serve a delivery on a line.** -/
def serve : LineCase → UInt8 → Frame → HandlerRig → (Verdict × Frame) × HandlerRig
  | probe key tag add verdicts, irq, f, rig =>
    let nth := (rig.calls.lookup key).getD 0
    let handled := if verdicts.isEmpty then false else (verdicts[nth % verdicts.size]?).getD false
    ((verdict handled, { f with rax := f.rax + add }),
      { rig with
        calls := putKey key (nth + 1) rig.calls
        trace := rig.trace.push (tag, irq, nth) })
  | claim _, irq, f, rig => ((.handled, { f with rbx := irq.toUInt64 }), rig)
  | decline _, irq, f, rig => ((.notMine, { f with rbx := irq.toUInt64 + 1000 }), rig)
  | anonymous, irq, f, rig => ((.notMine, f), { rig with trace := rig.trace.push ("anon", irq, 0) })
  | tick, _, f, rig => ((.handled, f), rig)

end LineCase

/-- **The devices behind the controllers, and what the handlers leave behind.** -/
structure LineRig where
  recording : RecordingController := {}
  ports : PortMachine := {}
  /-- The first vectors of master and slave of the 8259 chips on the ports. -/
  vectors : UInt8 × UInt8 := (0x20, 0x28)
  page : RegisterPage := {}
  window : SelectWindow := {}
  handlers : HandlerRig := {}

namespace LineRig

/-- The devices of a rig. -/
def portSocket : Socket LineRig PortMachine := ⟨LineRig.ports, fun d r => { r with ports := d }⟩

@[inherit_doc portSocket] def pageSocket : Socket LineRig RegisterPage :=
  ⟨LineRig.page, fun d r => { r with page := d }⟩

@[inherit_doc portSocket] def windowSocket : Socket LineRig SelectWindow :=
  ⟨LineRig.window, fun d r => { r with window := d }⟩

/-- The pair of 8259 chips on the ports. -/
def pair (r : LineRig) : Pic (Socket LineRig PortMachine) :=
  { ports := portSocket, master := r.vectors.1, slave := r.vectors.2 }

/-- Forget what the devices and handlers have recorded. -/
def forget (r : LineRig) : LineRig :=
  { r with
    recording := { r.recording with calls := #[] }
    ports := r.ports.forget
    page := r.page.forget
    window := r.window.forget
    handlers := { r.handlers with trace := #[] } }

end LineRig

/-- **A controller on a rig.** What can change about it is part of the rig, so that everybody who
holds the controller sees the change. -/
inductive RigController where
  | recording
  | pic
  | apic (c : ApicController (Socket LineRig RegisterPage) (Socket LineRig SelectWindow))

namespace RigController

/-- Record a call of the recording controller. -/
def recordCall (call : ControllerCall) : BenchM LineRig Unit :=
  BenchM.stepDevice fun r => { r with recording := r.recording.record call }

/-- Ask something of the pair of 8259 chips. -/
def askPair {α : Type} (f : Pic (Socket LineRig PortMachine) → BenchM LineRig α) :
    BenchM LineRig α := do
  f (← get).device.pair

/-- Apply an operation to the pair of 8259 chips, which may come out with other vectors. -/
def onPair {α : Type}
    (f : Pic (Socket LineRig PortMachine) → BenchM LineRig (α × Pic (Socket LineRig PortMachine))) :
    BenchM LineRig α := do
  let (a, p) ← askPair f
  BenchM.stepDevice fun r => { r with vectors := p.offsets }
  pure a

/-- **The APICs on the rig**, the I/O APIC probed first. Without one the recording controller takes
their place. -/
def probeApics {T : Type} [Acpi.PlatformTables T] (platform : T) (destination irqBase : UInt8) :
    BenchM LineRig RigController := do
  let probed ← IoApic.probe platform destination fun _ => pure (.ok LineRig.windowSocket)
  match probed with
  | .ok ioApic =>
    pure (apic { localApic := { window := LineRig.pageSocket, physBase := 0 }, ioApic, irqBase })
  | .error _ => pure recording

/-- The controller's name. -/
def name : RigController → String
  | recording => "fake"
  | pic => Pic.name
  | apic _ => ApicController.name

/-- The number of lines. -/
def lineCount : RigController → LineRig → Nat
  | recording, r => r.recording.lines
  | pic, _ => Pic.lines
  | apic c, _ => c.lines

instance : Controller RigController (BenchM LineRig) where
  name := name
  lineCount c := do pure (c.lineCount (← get).device)
  currentIrq
    | recording, vector => do pure ((← get).device.recording.lineOf vector)
    | pic, vector => askPair fun p => p.currentIrq vector
    | apic c, vector => c.currentIrq vector
  eoi
    | recording, vector, irq => recordCall (.eoi vector irq)
    | pic, vector, irq => askPair fun p => p.acknowledge vector irq
    | apic c, vector, irq => c.acknowledge vector irq
  maskLine
    | recording, irq => recordCall (.mask irq)
    | pic, irq => askPair fun p => p.maskLine irq
    | apic c, irq => c.maskLine irq
  unmaskLine
    | recording, irq => recordCall (.unmask irq)
    | pic, irq => askPair fun p => p.unmaskLine irq
    | apic c, irq => c.unmaskLine irq

end RigController

instance : LineHandler LineCase (BenchM LineRig) where
  name := LineCase.name
  serve h irq f := BenchM.onDevice fun r =>
    let (answer, handlers) := h.serve irq f r.handlers
    (answer, { r with handlers })

end Interrupts.Sim
