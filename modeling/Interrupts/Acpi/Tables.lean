import Interrupts.Bus
import Interrupts.Memory.Paging

/-!
# Firmware tables

The firmware describes the machine in a tree of tables: a root pointer names one or two lists, and
a list names the tables. Every table starts with a header that holds its signature and its length,
and its bytes add up to zero. Nothing of this can be trusted. `Tables.find` walks the 64-bit list
first and the 32-bit list after it, passes over every candidate that cannot be mapped, is too
short, has another signature or a wrong sum, and answers the first one that holds up.
-/

namespace Interrupts.Acpi

/-- The sum of all bytes, in one byte. -/
def checksum (bs : Bytes) : UInt8 :=
  bs.foldl (· + ·) 0

/-- The length of a table header. -/
def headerLength : Nat := 36

/-- **The header of a table**, as far as it is used. -/
structure Header where
  /-- Four characters naming the kind of table. -/
  signature : Bytes
  /-- The length of the whole table. -/
  length : Nat
  /-- The revision of the table's format. -/
  revision : Nat
  /-- Six characters naming the maker. -/
  oem : Bytes
  /-- The maker's revision. -/
  oemRevision : Nat
  deriving DecidableEq, Repr

/-- **The header at the start of a byte string**, if it is long enough to hold one. -/
def readHeader? (bs : Bytes) : Option Header :=
  if bs.length < headerLength then none
  else some
    { signature := bs.take 4
      length := bs.field 4 4
      revision := bs.field 8 1
      oem := (bs.drop 10).take 6
      oemRevision := bs.field 24 4 }

/-- The table is as long as it says, and its bytes add up to zero. -/
def isValid (bs : Bytes) : Bool :=
  match readHeader? bs with
  | some h => h.length == bs.length && checksum bs == 0
  | none => false

/-- The eight characters at the start of the root pointer. -/
def rootSignature : Bytes :=
  "RSD PTR ".toList.map fun c => c.toNat.toUInt8

/-- The length of the root pointer, and of the part that its first sum covers. -/
def rootLength : Nat := 36

@[inherit_doc rootLength] def rootLengthV1 : Nat := 20

/-- **The root pointer**, as far as it is used. -/
structure Root where
  /-- Revision 2 and later have the 64-bit list. -/
  revision : Nat
  /-- The physical address of the 32-bit list. -/
  list32 : UInt64
  /-- The physical address of the 64-bit list. -/
  list64 : UInt64
  deriving DecidableEq, Repr

/-- **Why a root pointer is rejected.** -/
inductive RootRefusal where
  | signature
  | checksum
  | extendedChecksum
  deriving DecidableEq, Repr

/-- The line logged for a rejected root pointer. -/
def RootRefusal.message : RootRefusal → String
  | signature => "ACPI: RSDP signature mismatch"
  | checksum => "ACPI: RSDP checksum failed"
  | extendedChecksum => "ACPI: RSDP extended checksum failed"

/-- **Read a root pointer** and check its signature and its sums. -/
def Root.parse (bs : Bytes) : Except RootRefusal Root :=
  let revision := bs.field 15 1
  if bs.take 8 != rootSignature then .error .signature
  else if checksum (bs.take rootLengthV1) != 0 then .error .checksum
  else if 2 ≤ revision ∧ checksum bs ≠ 0 then .error .extendedChecksum
  else .ok
    { revision
      list32 := UInt64.ofNat (bs.field 16 4)
      list64 := UInt64.ofNat (bs.field 24 8) }

/-- A table in memory. -/
structure Table where
  /-- Its physical address. -/
  phys : UInt64
  /-- All of its bytes. -/
  bytes : Bytes
  deriving DecidableEq, Repr

/-- **The pointers in a list**, each `width` bytes wide, in order; a rest that is too short for a
pointer is left out. -/
def pointers (width : Nat) (payload : Bytes) : List UInt64 :=
  (List.range (payload.length / width)).map fun i =>
    UInt64.ofNat (payload.field (i * width) width)

/-- Four characters as text, if all of them are ASCII or they spell a valid UTF-8 string. -/
def signatureText (signature : Bytes) : String :=
  (String.fromUTF8? ⟨signature.toArray⟩).getD "????"

/-- **The firmware tables under an accepted root pointer.** -/
structure Tables (P : Type) where
  /-- The root pointer. -/
  root : Root
  /-- How the tables are made reachable. -/
  paging : P

section Walk

variable {m : Type → Type} {P : Type} [Monad m] [MonadExceptOf Stop m] [Logger m] [Paging P m]
  [PhysicalMemory m]

/-- **The bytes of firmware memory.** Running out of virtual addresses is fatal; any other failure
only means that the memory cannot be used. -/
def mapBytes (paging : P) (phys : UInt64) (length : Nat) : m (Option Bytes) := do
  if Address.isPhysical phys then
    match ← Paging.mapDevice paging phys (UInt64.ofNat length) with
    | .ok virt => some <$> PhysicalMemory.fetch virt length
    | .error .addressSpaceExhausted => fatal (.firmwareMapping phys length)
    | .error e => do
      log .info s!"ACPI: cannot map {hex0x phys.toNat}: {e.describe}"
      pure none
  else
    pure none

/-- **A whole table**: first its header, to learn the length, and then all of it. -/
def mapTable (paging : P) (phys : UInt64) : m (Option Table) := do
  if phys = 0 then
    pure none
  else do
    match ← mapBytes paging phys headerLength with
    | none => pure none
    | some headerBytes =>
      match readHeader? headerBytes with
      | none => pure none
      | some h =>
        if h.length < headerLength then
          pure none
        else do
          match ← mapBytes paging phys h.length with
          | none => pure none
          | some bytes => pure (some { phys, bytes })

/-- **The first table with a signature** among those that the pointers name. -/
def scan (paging : P) (signature : Bytes) : List UInt64 → m (Option Table)
  | [] => pure none
  | p :: ps => do
    match ← mapTable paging p with
    | none => scan paging signature ps
    | some t =>
      if t.bytes.take 4 != signature then
        scan paging signature ps
      else if isValid t.bytes then
        pure (some t)
      else do
        log .info "ACPI: Found table with invalid checksum, skipping"
        scan paging signature ps

/-- The first table with a signature in the list at a physical address, if there is such a list. -/
def scanList (paging : P) (signature : Bytes) (width : Nat) (list : UInt64) :
    m (Option Table) := do
  match ← mapTable paging list with
  | none => pure none
  | some t =>
    if isValid t.bytes then scan paging signature (pointers width (t.bytes.drop headerLength))
    else pure none

namespace Tables

/-- **Accept a root pointer**, or log why it is rejected. -/
def fromRoot (paging : P) (phys : UInt64) : m (Option (Tables P)) := do
  match ← mapBytes paging phys rootLength with
  | none => pure none
  | some bytes =>
    match Root.parse bytes with
    | .ok root => pure (some { root, paging })
    | .error e => do
      log .info e.message
      pure none

/-- The table with a signature in the 64-bit list, when there is such a list. -/
def find64 (t : Tables P) (signature : Bytes) : m (Option Table) :=
  if 2 ≤ t.root.revision ∧ t.root.list64 ≠ 0 then scanList t.paging signature 8 t.root.list64
  else pure none

/-- The table with a signature in the 32-bit list, when there is such a list. -/
def find32 (t : Tables P) (signature : Bytes) : m (Option Table) :=
  if t.root.list32 ≠ 0 then scanList t.paging signature 4 t.root.list32
  else pure none

/-- **Look a table up by its signature**, in the 64-bit list first. -/
def find (t : Tables P) (signature : Bytes) : m (Option Table) := do
  match ← t.find64 signature with
  | some table => pure (some table)
  | none =>
    match ← t.find32 signature with
    | some table => pure (some table)
    | none => do
      log .debug s!"ACPI: table {signatureText signature} not found"
      pure none

end Tables

end Walk

end Interrupts.Acpi
