import Interrupts.Frame
import Interrupts.Irq.Registry

/-!
# Serving interrupts

The active controller says which line a delivery is for. The handlers of the line are asked in
order, those that serve only another processor left out, until one of them claims the interrupt;
then the controller is told that the delivery is over, exactly once, whatever came of it. A
delivery that names no line is spurious, and one that names a line the controller or the registry
does not have is out of range: no handler sees either.
-/

namespace Interrupts

/-- **What a handler says about a delivery.** -/
inductive Verdict where
  /-- The handler's device raised the interrupt; nobody else is asked. -/
  | handled
  /-- The interrupt is somebody else's. -/
  | notMine
  deriving DecidableEq, Repr

/-- The verdict's name in reports. -/
def Verdict.name : Verdict → String
  | handled => "Handled"
  | notMine => "NotMine"

/-- A type of handlers of interrupt lines. -/
class LineHandler (H : Type) (m : Type → Type) where
  /-- The handler's name in log lines. -/
  name : H → String
  /-- Serve a delivery on a line; answers the verdict and the frame to go on with. -/
  serve : H → (irq : UInt8) → Frame → m (Verdict × Frame)

/-- **An interrupt controller**, as the dispatcher sees it. -/
class Controller (C : Type) (m : Type → Type) where
  /-- The controller's name in log lines. -/
  name : C → String
  /-- The number of its lines. -/
  lineCount : C → m Nat
  /-- The line that a delivery on a vector is for, if it names one. -/
  currentIrq : C → (vector : UInt8) → m (Option UInt8)
  /-- The delivery on a vector, for this line if it named one, is over. -/
  eoi : C → (vector : UInt8) → (irq : Option UInt8) → m Unit
  /-- Keep a line from being delivered. -/
  maskLine : C → (irq : UInt8) → m Unit
  /-- Let a line be delivered. -/
  unmaskLine : C → (irq : UInt8) → m Unit

/-- **What became of a delivery.** -/
inductive DispatchOutcome where
  | handled (irq : UInt8)
  | unhandled (irq : UInt8)
  | outOfRange (irq : UInt8)
  | spurious
  deriving DecidableEq, Repr

/-- The outcome as it is written in reports. -/
def DispatchOutcome.describe : DispatchOutcome → String
  | handled irq => s!"Handled \x7b irq: {irq.toNat} \x7d"
  | unhandled irq => s!"Unhandled \x7b irq: {irq.toNat} \x7d"
  | outOfRange irq => s!"OutOfRange \x7b irq: {irq.toNat} \x7d"
  | spurious => "Spurious"

instance : ToString DispatchOutcome := ⟨DispatchOutcome.describe⟩

namespace Registry

variable {H C : Type} {m : Type → Type} [Monad m] [Logger m]

section Handlers

variable [LineHandler H m]

/-- **Install a handler** and log it. -/
def installLogged (r : Registry H) (irq : UInt8) (h : H) (cpu : Option Nat) :
    m (Except IrqError HandlerId × Registry H) := do
  match r.install irq h cpu with
  | .error e => do
    log .info s!"IRQ: Attempted to register handler for invalid line {irq.toNat}"
    pure (.error e, r)
  | .ok (id, r') => do
    let name := LineHandler.name m h
    log .debug s!"IRQ: Registered handler for line {irq.toNat} ({name})"
    pure (.ok id, r')

/-- **Remove a handler** and log it. -/
def removeLogged (r : Registry H) (irq : UInt8) (id : HandlerId) :
    m (Except IrqError H × Registry H) := do
  match r.remove irq id with
  | .error e => pure (.error e, r)
  | .ok (h, r') => do
    let name := LineHandler.name m h
    log .debug s!"IRQ: Unregistered handler for line {irq.toNat} ({name})"
    pure (.ok h, r')

/-- **Ask the handlers of a chain in order** until one claims the delivery. -/
def askChain (irq : UInt8) (cpu : Nat) : List (HandlerEntry H) → Frame → m (Verdict × Frame)
  | [], f => pure (.notMine, f)
  | e :: rest, f =>
    if e.serves cpu then do
      let (verdict, f') ← LineHandler.serve e.handler irq f
      match verdict with
      | .handled => pure (.handled, f')
      | .notMine => askChain irq cpu rest f'
    else askChain irq cpu rest f

/-- **Serve a delivery on a line** that exists. -/
def runChain (r : Registry H) (irq vector : UInt8) (f : Frame) (cpu : Nat) :
    m (DispatchOutcome × Frame × Registry H) := do
  let (verdict, f') ← askChain irq cpu (r.chain irq) f
  match verdict with
  | .handled => pure (.handled irq, f', r.countDelivery irq)
  | .notMine => do
    if !r.isReported irq then
      log .info s!"IRQ: Unhandled IRQ {irq.toNat} (vector {vector.toNat})"
    pure (.unhandled irq, f', (r.countDelivery irq).countUnhandled irq)

/-- Serve a delivery for which the controller named this line, or none. -/
def serveNamed [Controller C m] (r : Registry H) (c : C) (vector : UInt8) (irq? : Option UInt8)
    (f : Frame) (cpu : Nat) : m (DispatchOutcome × Frame × Registry H) := do
  match irq? with
  | none => pure (.spurious, f, r)
  | some irq => do
    let lines ← Controller.lineCount c
    if min lines lineCount ≤ irq.toNat then do
      let name := Controller.name m c
      let shown ← Controller.lineCount c
      log .debug
        s!"IRQ: vector {vector.toNat} names line {irq.toNat} outside {name} ({shown} lines)"
      pure (.outOfRange irq, f, r)
    else
      runChain r irq vector f cpu

/-- **Serve one delivery on a vector** and tell the controller that it is over. -/
def dispatch [Controller C m] (r : Registry H) (c : C) (vector : UInt8) (f : Frame) (cpu : Nat) :
    m (DispatchOutcome × Frame × Registry H) := do
  let irq? ← Controller.currentIrq c vector
  let result ← r.serveNamed c vector irq? f cpu
  Controller.eoi c vector irq?
  pure result

end Handlers

/-- **Mask a line** of the controller. -/
def maskLine [Controller C m] (c : C) (irq : UInt8) : m (Except IrqError Unit) := do
  let lines ← Controller.lineCount c
  if lines ≤ irq.toNat then
    pure (.error (.invalidLine irq))
  else do
    Controller.maskLine c irq
    pure (.ok ())

/-- **Unmask a line** of the controller, and report the next unclaimed delivery on it again. -/
def unmaskLine [Controller C m] (r : Registry H) (c : C) (irq : UInt8) :
    m (Except IrqError Unit × Registry H) := do
  let lines ← Controller.lineCount c
  if lines ≤ irq.toNat then
    pure (.error (.invalidLine irq), r)
  else
    match r.line? irq with
    | none => pure (.error (.invalidLine irq), r)
    | some _ => do
      Controller.unmaskLine c irq
      pure (.ok (), r.rearm irq)

end Registry

end Interrupts
