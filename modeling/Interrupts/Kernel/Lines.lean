import Interrupts.Kernel.Identity

/-!
# The interrupt lines of the system

These are the operations of the registry on the one registry of the system, with the controller
that is in charge at the time. Before there is one, lines cannot be masked, and a delivery is
spurious.
-/

namespace Interrupts.Boot

variable {X : Surroundings} [Behaviour X]

/-- Change the registry in a step that answers something. -/
def onRegistry {α : Type}
    (f : Registry (KernelHandler X) → Boot X (α × Registry (KernelHandler X))) : Boot X α := do
  let (a, r) ← f (← kernel).registry
  update fun k => { k with registry := r }
  pure a

/-- **Put a controller in charge.** -/
def setActive (c : ActiveController X) : Boot X Unit := do
  let name := Controller.name (Boot X) c
  let lines ← Controller.lineCount c
  log .debug s!"IRQ: {name} owns {lines} lines"
  update fun k => { k with active := some c }

/-- Install a handler on a line. -/
def installHandler (irq : UInt8) (h : KernelHandler X) (cpu : Option Nat) :
    Boot X (Except IrqError HandlerId) :=
  onRegistry fun r => r.installLogged irq h cpu

/-- Remove a handler from a line. -/
def removeHandler (irq : UInt8) (id : HandlerId) : Boot X (Except IrqError (KernelHandler X)) :=
  onRegistry fun r => r.removeLogged irq id

/-- Mask a line of the controller in charge. -/
def maskLine (irq : UInt8) : Boot X (Except IrqError Unit) := do
  match (← kernel).active with
  | none => pure (.error .noController)
  | some c => Registry.maskLine c irq

/-- Unmask a line of the controller in charge. -/
def unmaskLine (irq : UInt8) : Boot X (Except IrqError Unit) := do
  match (← kernel).active with
  | none => pure (.error .noController)
  | some c => onRegistry fun r => r.unmaskLine c irq

/-- **Serve one delivery** of the controller in charge. -/
def dispatchIrq (f : Frame) : Boot X (DispatchOutcome × Frame) := do
  let vector := f.vectorByte
  match (← kernel).active with
  | none => do
    log .info s!"IRQ: Dispatch of vector {vector.toNat} before controller setup"
    pure (.spurious, f)
  | some c => do
    let cpu ← currentCpu
    onRegistry fun r => do
      let (outcome, f', r') ← r.dispatch c vector f cpu
      pure ((outcome, f'), r')

end Interrupts.Boot
