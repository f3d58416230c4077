import Interrupts.Memory.Address

/-!
# Mapping device memory

The interrupt core never walks page tables. It asks for device registers to be made reachable and
for a window of low memory to be mapped at its own address. `Paging` is what can be asked;
`DirectMap` answers for a boot loader that mapped all physical memory at a fixed offset and left
the lowest memory identity mapped: nothing is ever mapped there, requests are only checked.
-/

namespace Interrupts

/-- **Why a mapping is refused.** -/
inductive PagingError where
  /-- No virtual range is left. -/
  | addressSpaceExhausted
  /-- No length, a null base, or an end past the last address. -/
  | invalidRange
  /-- The range is not identity mapped and cannot be. -/
  | notIdentityMapped
  deriving DecidableEq, Repr

/-- The error's name in log lines. -/
def PagingError.describe : PagingError → String
  | addressSpaceExhausted => "AddressSpaceExhausted"
  | invalidRange => "InvalidRange"
  | notIdentityMapped => "NotIdentityMapped"

instance : ToString PagingError := ⟨PagingError.describe⟩

/-- What can be asked of the kernel's paging. -/
class Paging (P : Type) (m : Type → Type) where
  /-- Make `length` bytes of device memory reachable; answers their virtual address. -/
  mapDevice : P → (phys : UInt64) → (length : UInt64) → m (Except PagingError UInt64)
  /-- Make a range reachable at its own address. -/
  identityMap : P → (start : UInt64) → (length : UInt64) → m (Except PagingError Unit)
  /-- Give back a range that was made reachable at its own address. -/
  unmap : P → (start : UInt64) → (length : UInt64) → m (Except PagingError Unit)

/-- **A direct map of all physical memory** and an identity-mapped window from address 0. -/
structure DirectMap where
  /-- Where physical address 0 appears, if the boot loader said so. -/
  offset : Option UInt64
  /-- The end of the identity-mapped window. -/
  identityLimit : UInt64
  deriving DecidableEq, Repr

namespace DirectMap

/-- The window that boot loaders leave in place: the lowest mebibyte. -/
def defaultIdentityLimit : UInt64 := 0x100000

/-- **The virtual address of a physical one**; `none` when the sum wraps or is not canonical. -/
def virtual? (offset phys : UInt64) : Option UInt64 :=
  if phys.toNat + offset.toNat < UInt64.size then
    if Address.isCanonical (phys + offset) then some (phys + offset) else none
  else none

/-- The end of a range that has one. -/
def rangeEnd (start length : UInt64) : Except PagingError UInt64 :=
  if length = 0 then .error .invalidRange
  else if start.toNat + length.toNat < UInt64.size then .ok (start + length)
  else .error .invalidRange

/-- **The address of a device under the direct map.** -/
def mapDevice (d : DirectMap) (phys length : UInt64) : Except PagingError UInt64 :=
  if phys = 0 then .error .invalidRange
  else do
    let _ ← rangeEnd phys length
    match d.offset with
    | none => .error .addressSpaceExhausted
    | some offset =>
      match virtual? offset phys with
      | none => .error .addressSpaceExhausted
      | some virt => .ok virt

/-- **Check that a range lies inside the identity window.** -/
def withinWindow (d : DirectMap) (start length : UInt64) : Except PagingError Unit := do
  let stop ← rangeEnd start length
  if d.identityLimit < stop then .error .notIdentityMapped else .ok ()

instance {m : Type → Type} [Monad m] : Paging DirectMap m where
  mapDevice d phys length := pure (d.mapDevice phys length)
  identityMap d start length := pure (d.withinWindow start length)
  unmap d start length := pure (d.withinWindow start length)

end DirectMap

end Interrupts
