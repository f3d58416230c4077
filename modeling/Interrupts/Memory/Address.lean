import Interrupts.Stop

/-!
# Addresses

A physical address has at most 52 bits. A virtual address is *canonical* when bits 48 to 63 repeat
bit 47; no other address can be used. Addresses that arrive from outside are tested, and code that
takes an address for granted stops with a fault when it is not one.
-/

namespace Interrupts.Address

/-- A physical address fits 52 bits. -/
def isPhysical (a : UInt64) : Bool :=
  a.toNat < 0x10000000000000

/-- A virtual address is sign extended from bit 47. -/
def isCanonical (a : UInt64) : Bool :=
  a.toNat < 0x800000000000 || 0xffff800000000000 ≤ a.toNat

variable {m : Type → Type} [Monad m] [MonadExceptOf Stop m]

/-- The address itself, if it is physical; a fault otherwise. -/
def physical (a : UInt64) : m UInt64 :=
  if isPhysical a then pure a else throw (.fault .physicalAddress)

/-- The address itself, if it is canonical; a fault otherwise. -/
def virtual (a : UInt64) : m UInt64 :=
  if isCanonical a then pure a else throw (.fault .virtualAddress)

end Interrupts.Address
