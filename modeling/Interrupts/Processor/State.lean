import Interrupts.Text.Hex

/-!
# The life of a processor during bring-up

A processor listed by the firmware is `discovered`, is reset with an INIT, is pointed at the
trampoline with a STARTUP, and ends up `started` or `abandoned`. Between the first INIT and the end
it may be executing from the trampoline page: it is *in flight*.
-/

namespace Interrupts

/-- **How far bring-up has come with one processor.** -/
inductive ProcessorState where
  /-- Listed by the firmware; nothing was sent to it. -/
  | discovered
  /-- Reset; it waits for its start address. -/
  | initSent
  /-- Told where to start; it may run the trampoline. -/
  | startupSent
  /-- It reported itself online. -/
  | started
  /-- It never answered, or could not be reached, and is left out of the system. -/
  | abandoned
  deriving DecidableEq, Repr, Inhabited

namespace ProcessorState

/-- The state's name in reports. -/
def name : ProcessorState → String
  | discovered => "Discovered"
  | initSent => "InitSent"
  | startupSent => "StartupSent"
  | started => "Started"
  | abandoned => "Abandoned"

/-- The processor may still be executing from the trampoline page. -/
def inFlight : ProcessorState → Bool
  | initSent => true
  | startupSent => true
  | _ => false

end ProcessorState

/-- **Why processors could not be started.** -/
inductive BringUpError where
  /-- The Local APIC did not accept a command for this processor. -/
  | ipiTimeout (apicId : UInt32)
  /-- There is no memory for a stack. -/
  | outOfMemory
  /-- The trampoline image or its parameter block does not fit. -/
  | trampolineTooLarge (size : Nat)
  /-- The page tables cannot be loaded from 32-bit code. -/
  | pageTablesAbove4G (root : UInt64)
  /-- The trampoline page could not be identity mapped. -/
  | noIdentityWindow
  /-- A processor is still in flight. -/
  | stillStarting (apicId : UInt32) (state : ProcessorState)
  deriving DecidableEq, Repr

namespace BringUpError

/-- The error as it is written in log lines. -/
def describe : BringUpError → String
  | ipiTimeout id => s!"IpiTimeout \x7b apic_id: {id.toNat} \x7d"
  | outOfMemory => "OutOfMemory"
  | trampolineTooLarge size => s!"TrampolineTooLarge \x7b size: {size} \x7d"
  | pageTablesAbove4G root => s!"PageTablesAbove4G \x7b cr3: {root.toNat} \x7d"
  | noIdentityWindow => "NoIdentityWindow"
  | stillStarting id state =>
    s!"StillStarting \x7b apic_id: {id.toNat}, state: {state.name} \x7d"

instance : ToString BringUpError := ⟨describe⟩

end BringUpError

end Interrupts
