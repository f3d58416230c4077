import Interrupts.Stop

/-!
# The tick

A periodic interrupt on line 0 counts the time. With Local APIC timers every processor gets one,
so only the deliveries on the first processor count.
-/

namespace Interrupts

/-- **How a handler of the tick learns which processor it runs on.** -/
inductive CpuSource where
  /-- It looks itself up in the processor table. -/
  | table
  /-- It is told. -/
  | told (cpu : Nat)
  deriving DecidableEq, Repr

/-- **The handler of the tick.** -/
structure TimerTick where
  /-- The rate of the tick in hertz. -/
  hz : UInt32
  source : CpuSource := .table
  deriving DecidableEq, Repr

namespace TimerTick

/-- The processor whose deliveries count. -/
def countingCpu : Nat := 0

/-- The handler's name in log lines. -/
def name : String := "timer"

/-- **The milliseconds that a number of ticks lasts**; none at all at rate 0. -/
def ticksToMs {m : Type → Type} [Monad m] [MonadExceptOf Stop m] (t : TimerTick) (ticks : UInt64) :
    m UInt64 := do
  if t.hz = 0 then
    pure 0
  else
    let scaled ← mulWord64 ticks 1000
    pure (scaled / t.hz.toUInt64)

end TimerTick

/-- **Which controllers are in charge of interrupts.** -/
inductive IrqMode where
  | uninitialized
  | pic
  | apic
  deriving DecidableEq, Repr, Inhabited

/-- The mode's name in reports. -/
def IrqMode.name : IrqMode → String
  | uninitialized => "Uninitialized"
  | pic => "Pic"
  | apic => "Apic"

end Interrupts
