import Interrupts.Bus
import Interrupts.LocalApic.Command
import Interrupts.Poll

/-!
# The Local APIC

Every processor has a Local APIC, and all of them appear at the same address, each to its own
processor. Software enables it, tells it when an interrupt has been served, sends commands to other
processors through it, and can read which vectors are in service. Its timer is the subject of
`LocalApic.Timer`.
-/

namespace Interrupts

/-- **Why a command was not accepted.** -/
inductive IpiError where
  /-- The command was still pending when the budget was used up. -/
  | timeout (apicId : UInt8)
  deriving DecidableEq, Repr

/-- The error as it is written in reports. -/
def IpiError.describe : IpiError → String
  | timeout id => s!"Timeout \x7b apic_id: {id.toNat} \x7d"

instance : ToString IpiError := ⟨IpiError.describe⟩

/-- **The Local APIC of the executing processor.** -/
structure LocalApic (R : Type) where
  window : R
  physBase : UInt64
  deriving DecidableEq, Repr

namespace LocalApic

/-- The length of the register page. -/
def windowSize : UInt64 := 0x1000

/-- The registers that are used, by their offsets. -/
def idRegister : UInt64 := 0x020

@[inherit_doc idRegister] def versionRegister : UInt64 := 0x030

@[inherit_doc idRegister] def taskPriority : UInt64 := 0x080

@[inherit_doc idRegister] def endOfInterrupt : UInt64 := 0x0b0

@[inherit_doc idRegister] def logicalDestination : UInt64 := 0x0d0

@[inherit_doc idRegister] def destinationFormat : UInt64 := 0x0e0

@[inherit_doc idRegister] def spuriousRegister : UInt64 := 0x0f0

@[inherit_doc idRegister] def errorStatusRegister : UInt64 := 0x280

@[inherit_doc idRegister] def commandLow : UInt64 := 0x300

@[inherit_doc idRegister] def commandHigh : UInt64 := 0x310

@[inherit_doc idRegister] def timerEntry : UInt64 := 0x320

@[inherit_doc idRegister] def counterEntry : UInt64 := 0x340

@[inherit_doc idRegister] def lint0Entry : UInt64 := 0x350

@[inherit_doc idRegister] def lint1Entry : UInt64 := 0x360

@[inherit_doc idRegister] def errorEntry : UInt64 := 0x370

@[inherit_doc idRegister] def timerInitial : UInt64 := 0x380

@[inherit_doc idRegister] def timerCurrent : UInt64 := 0x390

@[inherit_doc idRegister] def timerDivide : UInt64 := 0x3e0

/-- The number of registers that tell which vectors are in service, 32 vectors in each. -/
def serviceWords : Nat := 8

/-- The register of a word of the vectors in service. -/
def serviceRegister (word : Nat) : UInt64 :=
  0x100 + UInt64.ofNat word * 0x10

/-- The vector of spurious deliveries. -/
def spuriousVector : UInt8 := 0xff

/-- The bit that enables the APIC. -/
def enableBit : UInt32 := 0x100

/-- The local sources: nothing is delivered, an NMI, or an interrupt of the 8259 pair. -/
def maskedEntry : UInt32 := 0x10000

@[inherit_doc maskedEntry] def nmiEntry : UInt32 := 0x400

@[inherit_doc maskedEntry] def extIntEntry : UInt32 := 0x700

/-- The lowest set bit of a word. -/
def lowestBit (bits : UInt32) : Option Nat :=
  (List.range 32).find? fun i => bits.toNat.testBit i

/-- The line whose vector is the lowest of a word of the vectors in service, if that vector lies
among the `lines` vectors from `irqBase` on. -/
def lineOfWord (irqBase : UInt8) (lines word : Nat) (bits : UInt32) : Option UInt8 :=
  (lowestBit bits).bind fun bit =>
    let vector := word * 32 + bit
    if irqBase.toNat ≤ vector ∧ vector - irqBase.toNat < lines then
      some (UInt8.ofNat (vector - irqBase.toNat))
    else none

variable {R : Type} {m : Type → Type} [Monad m] [RegisterBus R m]

/-- Read a register. -/
def read (a : LocalApic R) (offset : UInt64) : m UInt32 :=
  RegisterBus.read32 a.window offset

/-- Write a register. -/
def write (a : LocalApic R) (offset : UInt64) (value : UInt32) : m Unit :=
  RegisterBus.write32 a.window offset value

/-- The APIC id. -/
def id (a : LocalApic R) : m UInt32 := do
  pure ((← a.read idRegister) >>> 24)

/-- The version. -/
def version (a : LocalApic R) : m UInt32 := do
  pure ((← a.read versionRegister) &&& 0xff)

/-- **Enable the APIC** of the processor at a position, every local source masked. -/
def enable [Logger m] (a : LocalApic R) (cpu : Nat) : m Unit := do
  a.write taskPriority 0
  a.write destinationFormat 0xffffffff
  a.write logicalDestination ((1 : UInt32) <<< UInt32.ofNat (24 + cpu % 8))
  let old ← a.read spuriousRegister
  a.write spuriousRegister
    ((old &&& ~~~(0xff : UInt32)) ||| enableBit ||| spuriousVector.toUInt32)
  a.write timerEntry maskedEntry
  a.write counterEntry maskedEntry
  a.write lint0Entry maskedEntry
  a.write lint1Entry maskedEntry
  a.write errorEntry maskedEntry
  -- The register shows an error only after a write; the second write clears what the first latched.
  a.write errorStatusRegister 0
  a.write errorStatusRegister 0
  let id ← a.id
  let version ← a.version
  log .debug s!"APIC: CPU {cpu} ID {hex0x id.toNat}, version {hex0x version.toNat}"

/-- **Let the 8259 pair interrupt through this APIC**, and deliver NMIs. -/
def routeLegacyPic [Logger m] (a : LocalApic R) : m Unit := do
  a.write lint0Entry extIntEntry
  a.write lint1Entry nmiEntry
  log .debug "APIC: LINT0 set to ExtINT for the 8259 pair"

/-- **Disable the APIC.** -/
def disable (a : LocalApic R) : m Unit := do
  let old ← a.read spuriousRegister
  a.write spuriousRegister (old &&& ~~~enableBit)

/-- The APIC is enabled. -/
def isEnabled (a : LocalApic R) : m Bool := do
  pure ((← a.read spuriousRegister) &&& enableBit != 0)

/-- **The interrupt in service is served.** -/
def eoi (a : LocalApic R) : m Unit :=
  a.write endOfInterrupt 0

/-- The errors since the last time. -/
def errorStatus (a : LocalApic R) : m UInt32 := do
  a.write errorStatusRegister 0
  a.read errorStatusRegister

/-- The last command is accepted. -/
def commandAccepted (a : LocalApic R) : m Bool := do
  pure ((← a.read commandLow) &&& IpiCommand.pendingFlag == 0)

/-- **Send a command** and wait until it is accepted. -/
def send [Logger m] (a : LocalApic R) (command : IpiCommand) (budget : Budget) :
    m (Except IpiError Unit) := do
  a.write commandHigh command.high
  a.write commandLow command.low
  match ← budget.wait a.commandAccepted (pure ()) with
  | .ok _ => pure (.ok ())
  | .error timeout => do
    let target := command.destination
    log .warn (s!"APIC: IPI {hex0x command.low.toNat} to APIC {target.toNat} " ++
      s!"still pending after {timeout.polls.toNat} polls")
    pure (.error (.timeout target))

/-- Reset a processor. -/
def sendInit [Logger m] (a : LocalApic R) (apicId : UInt8) (budget : Budget) :
    m (Except IpiError Unit) :=
  a.send (.init apicId) budget

/-- Let a processor start at a page of low memory. -/
def sendStartup [Logger m] (a : LocalApic R) (apicId page : UInt8) (budget : Budget) :
    m (Except IpiError Unit) :=
  a.send (.startup apicId page) budget

/-- The line of the first of `left` words from `word` on that names one. -/
def inServiceFrom (a : LocalApic R) (irqBase : UInt8) (lines : Nat) :
    (left word : Nat) → m (Option UInt8)
  | 0, _ => pure none
  | left + 1, word => do
    let bits ← a.read (serviceRegister word)
    match lineOfWord irqBase lines word bits with
    | some line => pure (some line)
    | none => a.inServiceFrom irqBase lines left (word + 1)

/-- **The line in service** among the `lines` vectors from `irqBase` on: the lowest vector of each
word is looked at, from the lowest word up. -/
def inService (a : LocalApic R) (irqBase : UInt8) (lines : Nat) : m (Option UInt8) :=
  a.inServiceFrom irqBase lines serviceWords 0

end LocalApic

end Interrupts
