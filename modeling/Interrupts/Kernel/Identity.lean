import Interrupts.Kernel.State

/-!
# Who is executing, and what time it is

The executing processor is known by its APIC id, and its position in the processor table follows
from that. The tick counts up on the first processor only, and every count is handed to the hook
that is set at the time.
-/

namespace Interrupts.Boot

variable {X : Surroundings} [Behaviour X]

/-- **The APIC id of the executing processor**, or 0 while only the boot processor runs. -/
def currentApicId : Boot X UInt32 := do
  match (← kernel).apicIdSource with
  | .unset => pure 0
  | .told id => pure id
  | .localApic =>
    match (← kernel).localApic.get? with
    | none => pure 0
    | some apic => apic.id

/-- **The position of the executing processor**, or 0 while it is not listed. -/
def currentCpu : Boot X Nat := do
  let id ← currentApicId
  pure (((← kernel).processors.indexOf? id).getD 0)

/-- **Count a tick** and hand the new count to the hook. -/
def tick : Boot X UInt64 := do
  let now := (← kernel).ticks + 1
  update fun k => { k with ticks := now }
  match (← kernel).tickHook with
  | none => pure ()
  | some hook => stepHardware (Behaviour.runHook hook now)
  pure now

/-- Set or clear the hook of the tick. -/
def setTickHook (hook : Option X.Hook) : Boot X Unit :=
  update fun k => { k with tickHook := hook }

/-- The processor that a handler of the tick takes itself to run on. -/
def cpuOf : CpuSource → Boot X Nat
  | .table => currentCpu
  | .told cpu => pure cpu

/-- **Serve a tick**: it counts on the first processor only, and is claimed everywhere. -/
def serveTick (t : TimerTick) : Boot X Verdict := do
  if (← cpuOf t.source) = TimerTick.countingCpu then
    let _ ← tick
  pure .handled

instance : LineHandler (KernelHandler X) (Boot X) where
  name
    | .tick _ => TimerTick.name
    | .device d => Behaviour.deviceName d
  serve
    | .tick t, _, f => do
      let verdict ← serveTick t
      pure (verdict, f)
    | .device d, irq, f => onHardware (Behaviour.serve d irq f)

end Interrupts.Boot
