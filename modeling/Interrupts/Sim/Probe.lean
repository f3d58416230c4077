import Interrupts.IoApic.Driver
import Interrupts.OneShot
import Interrupts.Sim.Registers

/-!
# A rig for probing I/O APICs

A window of registers waits for a driver that maps it. The rig remembers which controller was
mapped, can be told to refuse the mapping, and has a cell for a controller that is set up at most
once.
-/

namespace Interrupts.Sim

/-- The window of a rig, once it is mapped. -/
structure ProbeWindow where

/-- **The rig.** -/
structure ProbeRig where
  window : SelectWindow := {}
  /-- The mapping is refused. -/
  refusal : Option PagingError := none
  /-- The controller whose window was mapped, or would have been. -/
  mapped : Option Acpi.IoApicInfo := none
  /-- Probing started. -/
  ran : Bool := false
  cell : OneShot (IoApic ProbeWindow) := .unclaimed

namespace ProbeRig

/-- The window, as a device of the rig. -/
def windowSocket : Socket ProbeRig SelectWindow :=
  ⟨ProbeRig.window, fun d r => { r with window := d }⟩

instance : RegisterBus ProbeWindow (BenchM ProbeRig) where
  read32 _ offset := RegisterBus.read32 windowSocket offset
  write32 _ offset value := RegisterBus.write32 windowSocket offset value

/-- Forget what was recorded in the window. -/
def forget (r : ProbeRig) : ProbeRig :=
  { r with window := r.window.forget }

/-- Map the window of a controller. -/
def map (info : Acpi.IoApicInfo) : BenchM ProbeRig (Except IoApicError ProbeWindow) := do
  BenchM.stepDevice fun r => { r with mapped := some info }
  match (← get).device.refusal with
  | some e => pure (.error (.map e))
  | none => pure (.ok {})

/-- **Read what the firmware says about the platform, and probe the controller it lists.** -/
def probe {T : Type} [Acpi.PlatformTables T] (firmware : BenchM ProbeRig T) (destination : UInt8) :
    BenchM ProbeRig (Except IoApicError (IoApic ProbeWindow)) := do
  BenchM.stepDevice fun r => { r with ran := true }
  let platform ← firmware
  IoApic.probe platform destination map

/-- The cell of the rig. -/
def slot : Slot (BenchM ProbeRig) (IoApic ProbeWindow) where
  look := do pure (← get).device.cell
  put c := BenchM.stepDevice fun r => { r with cell := c }

/-- **Probe at most once.** The firmware is not read either when the cell is claimed already. -/
def probeOnce {T : Type} [Acpi.PlatformTables T] (firmware : BenchM ProbeRig T)
    (destination : UInt8) : BenchM ProbeRig (Except IoApicError (IoApic ProbeWindow)) := do
  match ← slot.tryInit (probe firmware destination) with
  | .ok a => pure (.ok a)
  | .error .alreadyInitialized => pure (.error .alreadyInitialized)
  | .error (.failed e) => pure (.error e)

end ProbeRig

end Interrupts.Sim
