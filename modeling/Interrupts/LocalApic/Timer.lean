import Interrupts.LocalApic.Driver

/-!
# The timer of the Local APIC

The timer counts down at a rate that differs between machines, so it is measured: it is started
from its largest count, a reference delay passes, and the count tells how far it came. Three such
windows are averaged. With the rate known, the timer can be made to interrupt periodically.
-/

namespace Interrupts

/-- **Why the timer cannot be used.** -/
inductive TimerError where
  /-- There is no Local APIC. -/
  | noApic
  /-- The rate was not measured. -/
  | notCalibrated
  /-- The counter did not move. -/
  | counterStalled
  /-- No tick can have this rate. -/
  | invalidFrequency (hz : UInt32)
  /-- The count for the rate does not fit the counter. -/
  | countOutOfRange (count : UInt64)
  deriving DecidableEq, Repr

/-- The error as it is written in log lines. -/
def TimerError.describe : TimerError → String
  | noApic => "NoApic"
  | notCalibrated => "NotCalibrated"
  | counterStalled => "CounterStalled"
  | invalidFrequency hz => s!"InvalidFrequency({hz.toNat})"
  | countOutOfRange count => s!"CountOutOfRange({count.toNat})"

instance : ToString TimerError := ⟨TimerError.describe⟩

namespace LocalApic

/-- The number of windows that are averaged, and their length in milliseconds. -/
def windows : Nat := 3

@[inherit_doc windows] def windowMs : UInt32 := 10

/-- The bit that makes the timer start over by itself. -/
def periodicBit : UInt32 := 0x20000

/-- The code for counting at a sixteenth of the bus clock. -/
def divideBy16 : UInt32 := 3

/-- The rate that a total over all windows stands for, if the counter moved at all. -/
def rateOf (total : UInt64) : Except TimerError UInt64 :=
  let average := total / 3
  if average = 0 then .error .counterStalled
  else .ok (average * 1000 / 10)

/-- The initial count for a rate of the tick, given the rate of the timer. -/
def countFor (hz : UInt32) (rate : UInt64) : Except TimerError UInt32 :=
  if rate = 0 then .error .notCalibrated
  else if hz = 0 then .error (.invalidFrequency hz)
  else
    let count := rate / hz.toUInt64
    if count = 0 ∨ 0xffffffff < count then .error (.countOutOfRange count)
    else .ok count.toUInt32

variable {R : Type} {m : Type → Type} [Monad m] [RegisterBus R m]

/-- How far the timer counts in one window. -/
def measureWindow (a : LocalApic R) (delay : UInt32 → m Unit) : m UInt32 := do
  a.write timerEntry maskedEntry
  a.write timerDivide divideBy16
  a.write timerInitial 0xffffffff
  delay windowMs
  let left ← a.read timerCurrent
  a.write timerInitial 0
  pure (0xffffffff - left)

/-- How far the timer counts in `left` windows, on top of `total`. -/
def measureTotal (a : LocalApic R) (delay : UInt32 → m Unit) : (left : Nat) → (total : UInt64) →
    m UInt64
  | 0, total => pure total
  | left + 1, total => do
    let elapsed ← a.measureWindow delay
    a.measureTotal delay left (total + elapsed.toUInt64)

/-- **Measure the rate of the timer** against a delay. -/
def measure (a : LocalApic R) (delay : UInt32 → m Unit) : m (Except TimerError UInt64) := do
  let total ← a.measureTotal delay windows 0
  pure (rateOf total)

/-- **Interrupt periodically** on a vector. Answers the count the timer starts from. -/
def programPeriodic (a : LocalApic R) (vector : UInt8) (hz : UInt32) (rate : UInt64) :
    m (Except TimerError UInt32) := do
  match countFor hz rate with
  | .error e => pure (.error e)
  | .ok count => do
    a.write timerDivide divideBy16
    a.write timerEntry (vector.toUInt32 ||| periodicBit)
    a.write timerInitial count
    pure (.ok count)

/-- **Stop the timer.** -/
def stopTimer (a : LocalApic R) : m Unit := do
  a.write timerEntry maskedEntry
  a.write timerInitial 0

/-- The current count. -/
def timerCount (a : LocalApic R) : m UInt32 :=
  a.read timerCurrent

end LocalApic

end Interrupts
