import Interrupts.IoApic.Driver
import Interrupts.Irq.Dispatch
import Interrupts.LocalApic.Driver

/-!
# I/O APIC pins delivered through the Local APIC

With both APICs up, line `l` of the machine is delivered on the vector `irqBase + l`. Lines are
masked and unmasked at the pins of the I/O APIC; which line is in service, and that it has been
served, is between the processor and its Local APIC. There are as many lines as pins, and with fewer
pins the sixteen legacy lines, as far as the vectors reach that lie between `irqBase` and the
spurious one.
-/

namespace Interrupts

/-- **The two APICs as one controller.** -/
structure ApicController (L I : Type) where
  localApic : LocalApic L
  ioApic : IoApic I
  /-- The vector of line 0. -/
  irqBase : UInt8

namespace ApicController

variable {L I : Type}

/-- The number of lines. -/
def lines (c : ApicController L I) : Nat :=
  min (max c.ioApic.pins.toNat IoApic.legacyCount)
    (LocalApic.spuriousVector.toNat - c.irqBase.toNat)

/-- The controller's name in log lines. -/
def name : String := "I/O APIC"

variable {m : Type → Type} [Monad m] [MonadExceptOf Stop m] [Logger m] [RegisterBus L m]
  [RegisterBus I m]

/-- **The line in service**, whatever the vector. -/
def currentIrq (c : ApicController L I) (_vector : UInt8) : m (Option UInt8) :=
  c.localApic.inService c.irqBase c.lines

/-- **End a delivery.** A spurious one puts nothing in service, so there is nothing to end. -/
def acknowledge (c : ApicController L I) (vector : UInt8) (_irq : Option UInt8) : m Unit := do
  if vector != LocalApic.spuriousVector then
    c.localApic.eoi

/-- **Mask the pin of a line.** A line without a pin is only logged. -/
def maskLine (c : ApicController L I) (irq : UInt8) : m Unit := do
  match ← c.ioApic.disable irq with
  | .ok () => pure ()
  | .error e => log .warn s!"IRQ: Cannot mask line {irq.toNat}: {e.describe}"

/-- **Deliver a line on its vector.** A line without a pin is only logged. -/
def unmaskLine (c : ApicController L I) (irq : UInt8) : m Unit := do
  match ← c.ioApic.enable irq (c.irqBase + irq) with
  | .ok () => pure ()
  | .error e => log .warn s!"IRQ: Cannot unmask line {irq.toNat}: {e.describe}"

instance : Controller (ApicController L I) m where
  name _ := name
  lineCount c := pure c.lines
  currentIrq := currentIrq
  eoi := acknowledge
  maskLine := maskLine
  unmaskLine := unmaskLine

end ApicController

end Interrupts
