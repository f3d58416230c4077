import Interrupts.Exception.Table
import Interrupts.Sim.Bench

/-!
# Handlers of exceptions to try the table with

Six handlers that between them do everything a handler may do: resolve the fault, count it, give up,
change the frame beyond recognition, and take themselves out of the table or replace themselves.
`FaultRig` is a table of them that counts the fatal reports.
-/

namespace Interrupts.Sim

/-- **A handler of exceptions.** -/
inductive FaultCase where
  /-- Skip the instruction, which is two bytes long. -/
  | resolve
  /-- Count in a register. -/
  | countRax
  /-- Give up. -/
  | giveUp
  /-- Overwrite what the report is about, and give up. -/
  | clobber
  /-- Remove the handler of the frame's vector. -/
  | removeSelf
  /-- Let another handler take over the frame's vector. -/
  | swapSelf
  deriving DecidableEq, Repr

namespace FaultCase

/-- Whether a change of the table succeeded, as a register value. -/
def success : Except ExceptionError Unit → UInt64
  | .ok () => 1
  | .error _ => 0

/-- **What a handler does about a frame.** -/
def react : FaultCase → Frame → Reaction FaultCase
  | resolve, f => .decide .handled { f with rip := f.rip + 2 }
  | countRax, f => .decide .handled { f with rax := f.rax + 1 }
  | giveUp, f => .decide .escalate f
  | clobber, f => .decide .escalate { f with vector := 3, errorCode := 0xdead, rip := 0, rax := 7 }
  | removeSelf, f =>
    .remove f.vectorByte fun r => .decide .handled { f with rbx := success r }
  | swapSelf, f =>
    .install f.vectorByte giveUp fun r => .decide .handled { f with rbx := success r }

instance : FaultHandler FaultCase where
  react := react

end FaultCase

/-- **A table of these handlers**, and the number of reports that were fatal. -/
structure FaultRig where
  table : ExceptionTable FaultCase := .empty
  fatalReports : Nat := 0

namespace FaultRig

instance : MonadStateOf (ExceptionTable FaultCase) (BenchM FaultRig) where
  get := do pure (← getThe (Bench FaultRig)).device.table
  set t := BenchM.stepDevice fun r => { r with table := t }
  modifyGet f := BenchM.onDevice fun r =>
    let (a, t) := f r.table
    (a, { r with table := t })

/-- Forget the count. -/
def forget (r : FaultRig) : FaultRig :=
  { r with fatalReports := 0 }

/-- Route an exception, and count a fatal report. -/
def handle (f : Frame) (cpu : Nat) : BenchM FaultRig (ExceptionOutcome × Frame) :=
  ExceptionTable.handle FaultCase f cpu fun _ _ =>
    BenchM.stepDevice fun r => { r with fatalReports := r.fatalReports + 1 }

end FaultRig

end Interrupts.Sim
