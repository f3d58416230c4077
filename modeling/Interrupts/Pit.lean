import Interrupts.Bus

/-!
# The interval timer

Channel 0 of the 8254 counts down from a reload value, at most 65536, and starts over. Latching it
freezes a reading, which is then read low byte first. The channel serves two purposes: its readings
time short delays without any programming, and programmed as a square wave it drives the tick of
the 8259 pair.

A delay ends when the counted-down ticks add up to what was asked for. Hardware that does not count
would keep it waiting for ever, so the loop has a patience, and running out of it is `Stop.stalled`.
-/

namespace Interrupts.Pit

/-- Ticks of the counter in a second. -/
def baseFrequency : UInt32 := 1193182

/-- The ports of channel 0 and of the command register. -/
def channel0 : UInt16 := 0x40

@[inherit_doc channel0] def commandPort : UInt16 := 0x43

/-- The largest reload value; it is written as 0. -/
def maxReload : UInt32 := 0x10000

/-- The commands that latch channel 0, and that make it a square wave with a two-byte reload. -/
def latchCommand : UInt8 := 0x00

@[inherit_doc latchCommand] def squareWaveCommand : UInt8 := 0x36

/-- The number of readings a delay is given; no delay on a running counter comes near it. -/
def defaultPatience : Nat := 0x10000000000

/-- The ticks in a number of milliseconds, in 32 bits. -/
def ticksFor (ms : UInt32) : UInt32 :=
  UInt32.ofNat (ms.toNat * baseFrequency.toNat / 1000)

/-- **The ticks between two readings**, the counter starting over at most once. -/
def stepTicks (last current : UInt16) : UInt32 :=
  if current ≤ last then (last - current).toUInt32
  else last.toUInt32 + maxReload - current.toUInt32

/-- The sum of two counts, or the largest count. -/
def addSaturating (a b : UInt32) : UInt32 :=
  if a.toNat + b.toNat < UInt32.size then a + b else 0xffffffff

/-- **The divisor for a rate**, from 1 to 65536; rate 0 counts as 1. -/
def divisorFor (hz : UInt32) : UInt32 :=
  let rate := if hz = 0 then 1 else hz
  min (max (baseFrequency / rate) 1) maxReload

variable {P : Type} {m : Type → Type} [Monad m] [PortBus P m]

/-- **Latch and read the counter.** -/
def readCount (ports : P) : m UInt16 := do
  PortBus.write8 ports commandPort latchCommand
  let low ← PortBus.read8 ports channel0
  let high ← PortBus.read8 ports channel0
  pure ((high.toUInt16 <<< 8) ||| low.toUInt16)

/-- Read on until `needed` ticks have passed, of which `elapsed` have. -/
@[specialize] def countTo [MonadExceptOf Stop m] (ports : P) (needed : UInt32) :
    (patience : Nat) → (last : UInt16) → (elapsed : UInt32) → m Unit
  | 0, _, elapsed => if elapsed < needed then throw .stalled else pure ()
  | patience + 1, last, elapsed =>
    if elapsed < needed then do
      let current ← readCount ports
      countTo ports needed patience current (addSaturating elapsed (stepTicks last current))
    else pure ()

/-- **Wait for some milliseconds** on the free-running counter. -/
def pollDelay [MonadExceptOf Stop m] (ports : P) (patience : Nat) (ms : UInt32) : m Unit := do
  if ms = 0 then
    pure ()
  else do
    let start ← readCount ports
    countTo ports (ticksFor ms) patience start 0

/-- **Program the counter as a square wave** of roughly a rate. Answers the rate that the divisor
really gives. -/
def setFrequency [Logger m] (ports : P) (hz : UInt32) : m UInt32 := do
  let divisor := divisorFor hz
  let raw := divisor.toUInt16
  PortBus.write8 ports commandPort squareWaveCommand
  PortBus.write8 ports channel0 raw.toUInt8
  PortBus.write8 ports channel0 (raw >>> 8).toUInt8
  let actual := baseFrequency / divisor
  log .debug s!"PIT: Channel 0 at {actual.toNat} Hz (divisor {divisor.toNat})"
  pure actual

end Interrupts.Pit
