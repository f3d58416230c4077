import Interrupts.LocalApic.Driver
import Interrupts.Pit
import Interrupts.Processor.BringUp
import Interrupts.Processor.Trampoline

/-!
# Starting processors through the Local APIC

This is the hardware side of bring-up: a stack from the kernel's memory, the parameters written
into the trampoline page, commands sent through the boot processor's Local APIC, and delays timed by
the interval timer. A processor whose APIC id does not fit the eight bits of a destination cannot be
reached.
-/

namespace Interrupts

/-- **What it takes to start processors.** -/
structure Launcher (R P : Type) where
  localApic : LocalApic R
  /-- The port bus with the interval timer. -/
  ports : P
  /-- The address of the block of parameters in the trampoline page. -/
  blockAddress : UInt64
  /-- The budget for a command to be accepted. -/
  budget : Budget
  /-- The parameters that are the same for all processors. -/
  template : LaunchParams

namespace Launcher

/-- The size of a processor's stack. -/
def stackSize : Nat := 16384

/-- The destination of a command to a processor, if it has one. -/
def destination? (apicId : UInt32) : Option UInt8 :=
  if apicId.toNat < 256 then some apicId.toUInt8 else none

/-- A command that was not accepted, as an error of bring-up. -/
def ofIpi : Except IpiError Unit → Except BringUpError Unit
  | .ok () => .ok ()
  | .error (.timeout id) => .error (.ipiTimeout id.toUInt32)

/-- The milliseconds that last at least some microseconds. -/
def milliseconds (us : UInt32) : UInt32 :=
  us / 1000 + (if us % 1000 = 0 then 0 else 1)

/-- The parameters for the processor at a position. -/
def paramsFor {R P : Type} (l : Launcher R P) (index : Nat) (stackTop : UInt64) : LaunchParams :=
  { l.template with stackTop, cpuIndex := UInt64.ofNat index }

section Drive

variable {R P : Type} {m : Type → Type} [Monad m] [MonadExceptOf Stop m] [Logger m]
  [RegisterBus R m] [PortBus P m] [PhysicalMemory m] [StackSource m]

variable (m) in
/-- The end of a fresh stack, a multiple of sixteen. -/
def allocateStack : m (Except BringUpError UInt64) := do
  match ← StackSource.allocate (m := m) stackSize with
  | none => pure (.error .outOfMemory)
  | some base => do
    let top ← addWord64 base (UInt64.ofNat stackSize)
    pure (.ok (top &&& ~~~(0xf : UInt64)))

/-- **A stack and the parameters for a processor.** -/
def prepare (l : Launcher R P) (index : Nat) (_apicId : UInt32) :
    m (Except BringUpError Unit) := do
  match ← allocateStack m with
  | .error e => pure (.error e)
  | .ok stackTop => do
    PhysicalMemory.place l.blockAddress (l.paramsFor index stackTop).encode
    pure (.ok ())

/-- **Reset a processor.** -/
def sendInit (l : Launcher R P) (apicId : UInt32) : m (Except BringUpError Unit) := do
  match destination? apicId with
  | none => pure (.error (.ipiTimeout apicId))
  | some id => ofIpi <$> l.localApic.sendInit id l.budget

/-- **Let a processor start at a page.** -/
def sendStartup (l : Launcher R P) (apicId : UInt32) (page : UInt8) :
    m (Except BringUpError Unit) := do
  match destination? apicId with
  | none => pure (.error (.ipiTimeout apicId))
  | some id => ofIpi <$> l.localApic.sendStartup id page l.budget

/-- **Wait for some microseconds**, rounded up to milliseconds. -/
def delay (l : Launcher R P) (us : UInt32) : m Unit :=
  Pit.pollDelay l.ports Pit.defaultPatience (milliseconds us)

instance : ApControl (Launcher R P) m where
  prepare := prepare
  sendInit := sendInit
  sendStartup := sendStartup
  delay := delay
  relax _ := pure ()

end Drive

end Launcher

end Interrupts
