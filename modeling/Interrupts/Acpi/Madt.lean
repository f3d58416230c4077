import Interrupts.Acpi.Tables

/-!
# The interrupt topology table

One firmware table lists the Local APICs, the I/O APICs and the rewired legacy interrupts of the
machine. After a header of 44 bytes it is a sequence of entries, each of which starts with a type
and a length. Entries of unknown type, and entries too short for their type, are passed over by
their length; the sequence ends at the first entry that is cut off, overruns the table, or is
shorter than its own two-byte header.
-/

namespace Interrupts.Acpi

/-- A processor's Local APIC. -/
structure LocalApicInfo where
  processorId : UInt8
  apicId : UInt8
  flags : UInt32
  deriving DecidableEq, Repr

/-- The processor is enabled, or can be brought online. -/
def LocalApicInfo.isUsable (i : LocalApicInfo) : Bool :=
  i.flags &&& 3 != 0

/-- An I/O APIC. -/
structure IoApicInfo where
  id : UInt8
  address : UInt32
  /-- The number of its first interrupt among all I/O APICs of the machine. -/
  gsiBase : UInt32
  deriving DecidableEq, Repr

/-- **The polarity an override asks for.** -/
inductive Polarity where
  | busDefault
  | activeHigh
  | activeLow
  deriving DecidableEq, Repr

/-- The polarity's name in reports. -/
def Polarity.name : Polarity → String
  | busDefault => "BusDefault"
  | activeHigh => "ActiveHigh"
  | activeLow => "ActiveLow"

/-- **The trigger mode an override asks for.** -/
inductive TriggerMode where
  | busDefault
  | edge
  | level
  deriving DecidableEq, Repr

/-- The trigger mode's name in reports. -/
def TriggerMode.name : TriggerMode → String
  | busDefault => "BusDefault"
  | edge => "Edge"
  | level => "Level"

/-- A legacy interrupt that arrives elsewhere than at its own number. -/
structure InterruptOverride where
  bus : UInt8
  irq : UInt8
  /-- Where the interrupt arrives. -/
  gsi : UInt32
  flags : UInt16
  deriving DecidableEq, Repr

namespace InterruptOverride

/-- The polarity in the low two flag bits. -/
def polarity (o : InterruptOverride) : Polarity :=
  if o.flags &&& 3 = 1 then .activeHigh
  else if o.flags &&& 3 = 3 then .activeLow
  else .busDefault

/-- The trigger mode in the next two flag bits. -/
def triggerMode (o : InterruptOverride) : TriggerMode :=
  if (o.flags >>> 2) &&& 3 = 1 then .edge
  else if (o.flags >>> 2) &&& 3 = 3 then .level
  else .busDefault

end InterruptOverride

/-- **An entry of the table.** -/
inductive MadtEntry where
  | localApic (info : LocalApicInfo)
  | ioApic (info : IoApicInfo)
  | interruptOverride (info : InterruptOverride)
  /-- An entry of another type, or one too short for its type. -/
  | unknown (entryType : UInt8)
  deriving DecidableEq, Repr

namespace MadtEntry

/-- The types of the known entries. -/
def localApicType : UInt8 := 0

@[inherit_doc localApicType] def ioApicType : UInt8 := 1

@[inherit_doc localApicType] def overrideType : UInt8 := 2

/-- The lengths of the known entries. -/
def localApicLength : Nat := 8

@[inherit_doc localApicLength] def ioApicLength : Nat := 12

@[inherit_doc localApicLength] def overrideLength : Nat := 10

/-- The type of an entry. -/
def entryType : MadtEntry → UInt8
  | localApic _ => localApicType
  | ioApic _ => ioApicType
  | interruptOverride _ => overrideType
  | unknown t => t

end MadtEntry

/-- Where an entry lies in the table. -/
structure RawEntry where
  entryType : UInt8
  length : Nat
  offset : Nat
  deriving DecidableEq, Repr

/-- The offset just past an entry. -/
def RawEntry.stop (r : RawEntry) : Nat :=
  r.offset + r.length

/-- **Why bytes are not such a table.** -/
inductive MadtRefusal where
  /-- Too short for the header, or of another signature. -/
  | notMadt
  /-- The length in the header does not fit the bytes. -/
  | badLength
  deriving DecidableEq, Repr

/-- **The interrupt topology table**: exactly the bytes that its header counts. -/
structure Madt where
  bytes : Bytes
  deriving DecidableEq, Repr

namespace Madt

/-- The offset of the first entry. -/
def entriesOffset : Nat := 44

/-- The signature of the table. -/
def signature : Bytes :=
  "APIC".toList.map fun c => c.toNat.toUInt8

/-- **Accept bytes as a table**, cut to the length in their header. -/
def parse (bs : Bytes) : Except MadtRefusal Madt :=
  if bs.length < entriesOffset then .error .notMadt
  else if bs.take 4 ≠ signature then .error .notMadt
  else
    let length := bs.field 4 4
    if length < entriesOffset ∨ bs.length < length then .error .badLength
    else .ok ⟨bs.take length⟩

/-- The physical address of every processor's Local APIC. -/
def lapicAddress (t : Madt) : UInt32 :=
  UInt32.ofNat (t.bytes.field 36 4)

/-- The flags of the table. -/
def flags (t : Madt) : UInt32 :=
  UInt32.ofNat (t.bytes.field 40 4)

/-- The machine also has a pair of 8259 controllers. -/
def hasLegacyPics (t : Madt) : Bool :=
  t.flags &&& 1 != 0

/-- **The entry at an offset**; `none` before the first entry, past the end, and where the length
cannot be right. -/
def rawEntryAt (t : Madt) (offset : Nat) : Option RawEntry :=
  if offset < entriesOffset ∨ t.bytes.length < offset + 2 then none
  else
    let length := t.bytes.field (offset + 1) 1
    if length < 2 ∨ t.bytes.length < offset + length then none
    else some { entryType := UInt8.ofNat (t.bytes.field offset 1), length, offset }

theorem rawEntryAt_bounds {t : Madt} {offset : Nat} {r : RawEntry}
    (h : t.rawEntryAt offset = some r) :
    offset + 2 ≤ r.stop ∧ r.stop ≤ t.bytes.length ∧ r.offset = offset := by
  simp only [rawEntryAt] at h
  split at h
  · simp at h
  · split at h
    · simp at h
    · simp only [Option.some.injEq] at h
      subst h
      refine ⟨?_, ?_, rfl⟩ <;> simp only [RawEntry.stop] <;> omega

/-- **The meaning of an entry.** -/
def parseEntry (t : Madt) (r : RawEntry) : MadtEntry :=
  let bs : Bytes := t.bytes.drop r.offset
  if r.entryType = MadtEntry.localApicType ∧ MadtEntry.localApicLength ≤ r.length then
    .localApic
      { processorId := UInt8.ofNat (bs.field 2 1)
        apicId := UInt8.ofNat (bs.field 3 1)
        flags := UInt32.ofNat (bs.field 4 4) }
  else if r.entryType = MadtEntry.ioApicType ∧ MadtEntry.ioApicLength ≤ r.length then
    .ioApic
      { id := UInt8.ofNat (bs.field 2 1)
        address := UInt32.ofNat (bs.field 4 4)
        gsiBase := UInt32.ofNat (bs.field 8 4) }
  else if r.entryType = MadtEntry.overrideType ∧ MadtEntry.overrideLength ≤ r.length then
    .interruptOverride
      { bus := UInt8.ofNat (bs.field 2 1)
        irq := UInt8.ofNat (bs.field 3 1)
        gsi := UInt32.ofNat (bs.field 4 4)
        flags := UInt16.ofNat (bs.field 8 2) }
  else
    .unknown r.entryType

/-- The entries from an offset on. -/
def entriesFrom (t : Madt) (offset : Nat) : List MadtEntry :=
  match _h : t.rawEntryAt offset with
  | none => []
  | some r => t.parseEntry r :: t.entriesFrom r.stop
termination_by t.bytes.length - offset
decreasing_by
  have := rawEntryAt_bounds _h
  omega

/-- **The entries of the table**, in order. -/
def entries (t : Madt) : List MadtEntry :=
  t.entriesFrom entriesOffset

/-- **The next entry of a type and a least length**, from an offset on, and the offset to go on
from: past the entry found, or where the sequence ends. -/
def search (t : Madt) (entryType : UInt8) (minLength offset : Nat) : Option MadtEntry × Nat :=
  match _h : t.rawEntryAt offset with
  | none => (none, offset)
  | some r =>
    if r.entryType = entryType ∧ minLength ≤ r.length then (some (t.parseEntry r), r.stop)
    else t.search entryType minLength r.stop
termination_by t.bytes.length - offset
decreasing_by
  have := rawEntryAt_bounds _h
  omega

section Find

variable {m : Type → Type} {P : Type} [Monad m] [MonadExceptOf Stop m] [Logger m] [Paging P m]
  [PhysicalMemory m]

/-- Accept bytes as a table; a wrong length is logged. -/
def accept (bs : Bytes) : m (Option Madt) := do
  match parse bs with
  | .ok t => pure (some t)
  | .error .notMadt => pure none
  | .error .badLength => do
    log .info "ACPI: MADT too short"
    pure none

/-- **The interrupt topology table of the firmware**, if it has one. -/
def ofTables (tables : Tables P) : m (Option Madt) := do
  match ← tables.find signature with
  | some t => accept t.bytes
  | none => do
    log .info "ACPI: MADT not found"
    pure none

end Find

end Madt

end Interrupts.Acpi
