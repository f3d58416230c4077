import Interrupts.Log
import Interrupts.Processor.State

/-!
# The processor table

The boot processor records itself first and then every other processor the firmware lists. The
table only grows at its end, holds at most 64 processors and none of them twice, so a processor's
position is its name for the rest of the system. Each entry has the APIC id, the flag the
processor itself raises once it runs, and how far bring-up has come with it.
-/

namespace Interrupts

/-- **One processor.** -/
structure Processor where
  apicId : UInt32
  /-- Raised by the processor itself once it runs on its own stack. -/
  started : Bool := false
  state : ProcessorState := .discovered
  deriving DecidableEq, Repr

/-- **The processors of the machine**, the boot processor first. -/
structure ProcessorTable where
  cpus : List Processor := []
  deriving DecidableEq, Repr

namespace ProcessorTable

/-- The largest number of processors. -/
def capacity : Nat := 64

/-- The number of processors. -/
def size (t : ProcessorTable) : Nat :=
  t.cpus.length

/-- The processor at a position. -/
def get? (t : ProcessorTable) (index : Nat) : Option Processor :=
  t.cpus[index]?

/-- **The position of an APIC id.** -/
def indexOf? (t : ProcessorTable) (apicId : UInt32) : Option Nat :=
  t.cpus.findIdx? fun p => p.apicId == apicId

/-- Change the processor at a position, if there is one. -/
def modify (t : ProcessorTable) (index : Nat) (f : Processor → Processor) : ProcessorTable :=
  ⟨t.cpus.modify index f⟩

/-- Raise the flag of the processor at a position. -/
def markStarted (t : ProcessorTable) (index : Nat) : ProcessorTable :=
  t.modify index fun p => { p with started := true }

/-- Raise the flag of the processor with an APIC id, if it is listed. -/
def markStartedId (t : ProcessorTable) (apicId : UInt32) : ProcessorTable :=
  match t.indexOf? apicId with
  | none => t
  | some index => t.markStarted index

/-- Record how far bring-up has come with the processor at a position. -/
def setState (t : ProcessorTable) (index : Nat) (s : ProcessorState) : ProcessorTable :=
  t.modify index fun p => { p with state := s }

/-- The processor at a position has raised its flag. -/
def isStarted (t : ProcessorTable) (index : Nat) : Bool :=
  match t.get? index with
  | none => false
  | some p => p.started

/-- How far bring-up has come with the processor at a position. -/
def state? (t : ProcessorTable) (index : Nat) : Option ProcessorState :=
  (t.get? index).map Processor.state

/-- **Append an APIC id**; a listed id keeps its position, and a full table refuses a new one. -/
def register (t : ProcessorTable) (apicId : UInt32) : Option Nat × ProcessorTable :=
  match t.indexOf? apicId with
  | some index => (some index, t)
  | none =>
    if t.size < capacity then (some t.size, ⟨t.cpus ++ [{ apicId }]⟩) else (none, t)

/-- Append APIC ids in order; also answers the ones for which there was no room. -/
def registerAll (t : ProcessorTable) : List UInt32 → List UInt32 × ProcessorTable
  | [] => ([], t)
  | id :: ids =>
    match t.register id with
    | (some _, t') => t'.registerAll ids
    | (none, t') =>
      let (ignored, t'') := t'.registerAll ids
      (id :: ignored, t'')

/-- The boot processor recorded and marked as running, if there is room for it. -/
def registerBoot (t : ProcessorTable) (apicId : UInt32) : ProcessorTable :=
  match t.register apicId with
  | (none, t') => t'
  | (some index, t') => (t'.markStarted index).setState index .started

/-- **Record the boot processor and then the others.** Answers the ids for which there was no
room. -/
def discover (t : ProcessorTable) (boot : UInt32) (others : List UInt32) :
    List UInt32 × ProcessorTable :=
  (t.registerBoot boot).registerAll others

/-- The warning about a processor for which there is no room. -/
def ignoredLine (apicId : UInt32) : Record :=
  ⟨.warn, s!"MP: CPU {hex0x apicId.toNat} ignored, table holds {capacity} processors"⟩

/-- The number of processors that have raised their flags. -/
def startedCount (t : ProcessorTable) : Nat :=
  t.cpus.countP Processor.started

/-- **No processor can still be executing from the trampoline page.** Otherwise the first one that
can is named. -/
def ensureQuiescent (t : ProcessorTable) : Except BringUpError Unit :=
  match t.cpus.find? fun p => p.state.inFlight with
  | none => .ok ()
  | some p => .error (.stillStarting p.apicId p.state)

section Run

variable {m : Type → Type} [Monad m] [Logger m] [MonadStateOf ProcessorTable m]

/-- Record processors in the table the monad keeps; answers how many it lists now. -/
def discoverHere (boot : UInt32) (others : List UInt32) : m Nat := do
  let t ← getThe ProcessorTable
  let (ignored, t') := t.discover boot others
  set t'
  logAll (ignored.map ignoredLine)
  pure t'.size

end Run

end ProcessorTable

end Interrupts
