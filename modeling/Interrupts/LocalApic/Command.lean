/-!
# Inter-processor interrupts

A processor interrupts another by writing a command into its own Local APIC: the destination into
the high half of the command register, and then what to deliver into the low half, which sends it.
-/

namespace Interrupts

/-- **What a command delivers.** -/
inductive IpiDelivery where
  | fixed
  | nmi
  | init
  | startup
  deriving DecidableEq, Repr

/-- The three delivery bits, in their place. -/
def IpiDelivery.bits : IpiDelivery → UInt32
  | fixed => 0
  | nmi => 0x400
  | init => 0x500
  | startup => 0x600

/-- **The two halves of a command.** -/
structure IpiCommand where
  low : UInt32
  high : UInt32
  deriving DecidableEq, Repr

namespace IpiCommand

/-- The flag that the last command is not accepted yet; it is only read. -/
def pendingFlag : UInt32 := 0x1000

/-- The flag that asserts the interrupt. -/
def assertFlag : UInt32 := 0x4000

/-- The flags there are: a logical destination, the pending flag, assertion, and level trigger. -/
def allFlags : UInt32 := 0x800 ||| pendingFlag ||| assertFlag ||| 0x8000

/-- **A command** for the processor with this APIC id. -/
def new (destination : UInt8) (delivery : IpiDelivery) (vector : UInt8) (flags : UInt32) :
    IpiCommand where
  low := vector.toUInt32 ||| delivery.bits ||| (flags &&& allFlags)
  high := destination.toUInt32 <<< 24

/-- Reset a processor. -/
def init (destination : UInt8) : IpiCommand :=
  new destination .init 0 assertFlag

/-- Let a processor start executing at a page of low memory. -/
def startup (destination page : UInt8) : IpiCommand :=
  new destination .startup page assertFlag

/-- Deliver a vector. -/
def fixed (destination vector : UInt8) : IpiCommand :=
  new destination .fixed vector assertFlag

/-- The APIC id of the processor that is interrupted. -/
def destination (c : IpiCommand) : UInt8 :=
  (c.high >>> 24).toUInt8

/-- The vector, or the page, that is delivered. -/
def vector (c : IpiCommand) : UInt8 :=
  c.low.toUInt8

end IpiCommand

end Interrupts
