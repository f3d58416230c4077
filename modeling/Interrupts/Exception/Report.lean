import Interrupts.Text.Hex

/-!
# Reports of fatal exceptions

An exception that nobody resolves ends in a report of what arrived: the vector and its name, the
processor, the error code and the interrupted instruction. `Report.text` is the sentence the
machine stops with.
-/

namespace Interrupts

/-- **Why an exception is fatal.** -/
inductive FatalReason where
  /-- No handler is registered for the vector. -/
  | unhandled
  /-- After this exception the state of the processor cannot be trusted. -/
  | alwaysFatal
  /-- The vector is reserved. -/
  | reserved
  /-- The handler looked at the fault and gave up. -/
  | escalated
  deriving DecidableEq, Repr, Inhabited

/-- The reason's name in reports. -/
def FatalReason.name : FatalReason → String
  | unhandled => "Unhandled"
  | alwaysFatal => "AlwaysFatal"
  | reserved => "Reserved"
  | escalated => "Escalated"

/-- **What arrived with a fatal exception.** -/
structure FatalReport where
  /-- The vector of the exception. -/
  vector : UInt8
  /-- The name of the exception. -/
  name : String
  /-- The index of the processor that took it. -/
  cpu : Nat
  /-- The error code at the time of arrival. -/
  errorCode : UInt64
  /-- The interrupted instruction. -/
  rip : UInt64
  /-- Why nobody could resolve it. -/
  reason : FatalReason
  deriving DecidableEq, Repr

/-- The sentence the machine stops with. -/
def FatalReport.text (r : FatalReport) : String :=
  s!"{r.name} (vector {r.vector.toNat}) on CPU {r.cpu}, error code {hex0x r.errorCode.toNat}, " ++
    s!"rip {hex0x r.rip.toNat} ({r.reason.name})"

end Interrupts
