import Interrupts.Bus
import Interrupts.Memory.Paging

/-!
# Mapped register windows

A device's registers are reached through a window of memory. The window knows its size, and every
access is checked against it: the offset has to be a multiple of four, and the four bytes have to
lie inside. An access that fails the check stops the machine, as does one whose address leaves the
64-bit word.
-/

namespace Interrupts

/-- **A window of device registers in memory.** -/
structure Window where
  /-- The virtual address of the first register. -/
  virtBase : UInt64
  /-- The physical address of the first register. -/
  physBase : UInt64
  /-- The length in bytes. -/
  size : UInt64
  deriving DecidableEq, Repr

namespace Window

variable {m : Type → Type} [Monad m]

/-- **Make a window reachable**; a null base or an empty window is refused. -/
def map {P : Type} [Paging P m] (paging : P) (phys size : UInt64) :
    m (Except PagingError Window) := do
  if phys = 0 ∨ size = 0 then
    pure (.error .invalidRange)
  else do
    match ← Paging.mapDevice paging phys size with
    | .error e => pure (.error e)
    | .ok virt => pure (.ok { virtBase := virt, physBase := phys, size })

variable [MonadExceptOf Stop m]

/-- The four bytes at an offset lie inside the window. -/
def admits (w : Window) (offset : UInt64) : m Bool := do
  if offset % 4 = 0 then
    let stop ← addWord64 offset 4
    pure (stop ≤ w.size)
  else
    pure false

/-- The address of a register that is read. -/
def readAddress (w : Window) (offset : UInt64) : m UInt64 := do
  if ← w.admits offset then addWord64 w.virtBase offset
  else throw (.fault (.readOutOfBounds offset w.size))

/-- The address of a register that is written. -/
def writeAddress (w : Window) (offset : UInt64) : m UInt64 := do
  if ← w.admits offset then addWord64 w.virtBase offset
  else throw (.fault (.writeOutOfBounds offset w.size))

end Window

end Interrupts
