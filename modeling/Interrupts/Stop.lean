import Interrupts.Exception.Report
import Interrupts.Log
import Interrupts.Processor.State

/-!
# Ways to stop

Most failures are ordinary values. A few are not: programming errors after which the kernel cannot
go on, arithmetic that leaves its word, an access outside a mapped window, an address no processor
can form. These are the `Fault`s, and `Fault.message` is the text the machine stops with. Besides
faulting, a processor can halt for good, and a loop that waits for hardware can outlast the
patience it was given; `Stop` is any of the three.

Sums and products that must not wrap go through `addWord` and `mulWord`, which fault instead.
-/

namespace Interrupts

/-- **A condition the kernel cannot continue from.** -/
inductive Fault where
  /-- A sum left its word. -/
  | addOverflow
  /-- A product left its word. -/
  | mulOverflow
  /-- A register read outside its window or off its alignment. -/
  | readOutOfBounds (offset size : UInt64)
  /-- A register write outside its window or off its alignment. -/
  | writeOutOfBounds (offset size : UInt64)
  /-- A physical address of more than 52 bits. -/
  | physicalAddress
  /-- A virtual address that is not sign extended from bit 47. -/
  | virtualAddress
  /-- The direct map was announced a second time. -/
  | directMapTwice
  /-- The boot processor's Local APIC was initialised a second time. -/
  | localApicTwice
  /-- The I/O APIC was initialised a second time. -/
  | ioApicTwice
  /-- The interrupt controllers were set up a second time. -/
  | bootTwice
  /-- No virtual address range is left for a firmware table. -/
  | firmwareMapping (phys : UInt64) (length : Nat)
  /-- An exception that nobody resolved. -/
  | exception (report : FatalReport)
  /-- The trampoline image cannot be used. -/
  | trampolineImage (error : BringUpError)
  /-- The trampoline cannot load the page tables. -/
  | trampolinePageTables (error : BringUpError)
  /-- The trampoline page is about to be given back while a processor may still run from it. -/
  | trampolineInUse (error : BringUpError)
  deriving DecidableEq, Repr

namespace Fault

/-- **The text the machine stops with.** -/
def message : Fault → String
  | addOverflow => "attempt to add with overflow"
  | mulOverflow => "attempt to multiply with overflow"
  | readOutOfBounds offset size =>
    s!"MMIO read out of bounds: offset={offset.toNat}, region_size={size.toNat}"
  | writeOutOfBounds offset size =>
    s!"MMIO write out of bounds: offset={offset.toNat}, region_size={size.toNat}"
  | physicalAddress => "physical addresses must not have any bits in the range 52 to 64 set"
  | virtualAddress => "virtual address must be sign extended in bits 48 to 64"
  | directMapTwice => "HHDM already initialized - init() called twice"
  | localApicTwice => "APIC: init called twice"
  | ioApicTwice => "IOAPIC: ioapic_init called twice"
  | bootTwice => "IRQ: interrupts_init_bsp called twice"
  | firmwareMapping phys length =>
    s!"ACPI: out of virtual address space mapping table at {hex0x phys.toNat} ({length} bytes)"
  | exception report => report.text
  | trampolineImage error => s!"MP: {error.describe}"
  | trampolinePageTables error => s!"MP: Trampoline cannot reach the page tables: {error.describe}"
  | trampolineInUse error => s!"MP: Trampoline still in use: {error.describe}"

end Fault

/-- **Why a computation did not return.** -/
inductive Stop where
  /-- A fault. -/
  | fault (cause : Fault)
  /-- The processor halted for good. -/
  | halted
  /-- A loop that waits for hardware used up its patience. -/
  | stalled
  deriving DecidableEq, Repr

section Words

variable {m : Type → Type} [Monad m] [MonadExceptOf Stop m]

/-- The sum of two 32-bit words, or a fault when it needs more bits. -/
def addWord32 (a b : UInt32) : m UInt32 :=
  if a.toNat + b.toNat < UInt32.size then pure (a + b) else throw (.fault .addOverflow)

/-- The sum of two 64-bit words, or a fault when it needs more bits. -/
def addWord64 (a b : UInt64) : m UInt64 :=
  if a.toNat + b.toNat < UInt64.size then pure (a + b) else throw (.fault .addOverflow)

/-- The product of two 64-bit words, or a fault when it needs more bits. -/
def mulWord64 (a b : UInt64) : m UInt64 :=
  if a.toNat * b.toNat < UInt64.size then pure (a * b) else throw (.fault .mulOverflow)

end Words

/-- Log a fault the kernel found itself, and stop with it. Faults of arithmetic, of window bounds
and of address constructors stop the machine without a line of their own. -/
def fatal {m : Type → Type} {α : Type} [Monad m] [MonadExceptOf Stop m] [Logger m] (f : Fault) :
    m α := do
  log .error s!"FATAL: {f.message}"
  throw (.fault f)

end Interrupts
