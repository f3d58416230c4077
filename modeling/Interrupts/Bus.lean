import Interrupts.Bytes
import Interrupts.Stop

/-!
# What drivers see of the hardware

A driver is written against one of two kinds of bus: the byte-wide I/O ports of the legacy devices,
or a window of 32-bit registers. The first argument of every access is a handle that says which bus
is meant, and the monad decides what is behind it: a real machine, a device that only remembers
what was written, or one that follows a data sheet. `PhysicalMemory` and `StackSource` are the two
other things bring-up needs from its surroundings.
-/

namespace Interrupts

/-- A bus of byte-wide I/O ports. -/
class PortBus (P : Type) (m : Type → Type) where
  /-- Read a port. -/
  read8 : P → (port : UInt16) → m UInt8
  /-- Write a port. -/
  write8 : P → (port : UInt16) → (value : UInt8) → m Unit

namespace PortBus

/-- The unused diagnostic port; a write to it takes about a microsecond. -/
def delayPort : UInt16 := 0x80

/-- Give a slow device time to take in the last command. -/
def pause {P : Type} {m : Type → Type} [PortBus P m] (ports : P) : m Unit :=
  write8 ports delayPort 0

end PortBus

/-- A window of 32-bit registers at byte offsets. -/
class RegisterBus (R : Type) (m : Type → Type) where
  /-- Read a register. -/
  read32 : R → (offset : UInt64) → m UInt32
  /-- Write a register. -/
  write32 : R → (offset : UInt64) → (value : UInt32) → m Unit

/-- Plain memory at virtual addresses. -/
class PhysicalMemory (m : Type → Type) where
  /-- The bytes from an address on. -/
  fetch : (address : UInt64) → (length : Nat) → m Bytes
  /-- Replace the bytes from an address on. -/
  place : (address : UInt64) → Bytes → m Unit

/-- A source of memory that is never given back. -/
class StackSource (m : Type → Type) where
  /-- The address of fresh memory, or `none` when there is no more. -/
  allocate : (size : Nat) → m (Option UInt64)

end Interrupts
