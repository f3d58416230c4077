import Interrupts.Acpi.Madt

/-!
# What the firmware says about the platform

Drivers do not walk firmware tables. They ask for the entries of one type, one at a time, and keep
a cursor between their questions; and they tell the firmware which interrupt model is in use.
`PlatformTables` is what can be asked, and `MadtPlatform` answers from the interrupt topology table,
if there is one.
-/

namespace Interrupts.Acpi

/-- **The interrupt model the firmware was told.** -/
inductive InterruptModel where
  | pic
  | apic
  deriving DecidableEq, Repr, Inhabited

/-- The model's name in reports. -/
def InterruptModel.name : InterruptModel → String
  | pic => "Pic"
  | apic => "Apic"

/-- A place in the platform's list of entries to go on from. -/
structure Cursor where
  offset : Nat
  deriving DecidableEq, Repr

/-- The cursor before the first entry. -/
def Cursor.start : Cursor :=
  ⟨Madt.entriesOffset⟩

/-- What the platform did with the request for an interrupt model. -/
structure ModelReply (T : Type) where
  /-- The request was accepted. -/
  accepted : Bool
  /-- The platform afterwards. -/
  platform : T
  /-- What was logged about it. -/
  lines : List Record

/-- What can be asked of the platform. -/
class PlatformTables (T : Type) where
  /-- There are tables that describe the APICs. -/
  supported : T → Bool
  /-- The next entry of a type and a least length, and the cursor past it. -/
  search : T → (entryType : UInt8) → (minLength : Nat) → Cursor → Option MadtEntry × Cursor
  /-- No run of searches with one cursor finds more entries than this. -/
  entryBound : T → Nat
  /-- Tell the firmware which interrupt model is in use. -/
  changeModel : T → InterruptModel → ModelReply T
  /-- The machine has a pair of 8259 controllers, which have to be masked before the APICs are
  used. -/
  hasLegacyPics : T → Bool

namespace PlatformTables

variable {T : Type} [PlatformTables T]

/-- The entries that at most `fuel` searches find, from a cursor on. -/
def entriesFrom (t : T) (entryType : UInt8) (minLength : Nat) : (fuel : Nat) → Cursor →
    List MadtEntry
  | 0, _ => []
  | fuel + 1, cursor =>
    match search t entryType minLength cursor with
    | (none, _) => []
    | (some e, next) => e :: entriesFrom t entryType minLength fuel next

/-- **All entries of a type and a least length**, in order. -/
def entriesOf (t : T) (entryType : UInt8) (minLength : Nat) : List MadtEntry :=
  entriesFrom t entryType minLength (entryBound t) .start

/-- The APIC id of a processor that can be started. -/
def usableId? : MadtEntry → Option UInt32
  | .localApic info => if info.isUsable then some info.apicId.toUInt32 else none
  | _ => none

/-- **The APIC ids of every processor that is enabled or can be brought online**, in order. -/
def usableApicIds (t : T) : List UInt32 :=
  (entriesOf t MadtEntry.localApicType MadtEntry.localApicLength).filterMap usableId?

end PlatformTables

/-- **The platform that an interrupt topology table describes.** Evaluating the firmware's own
method for a change of the interrupt model takes an interpreter; the model is only recorded, and
accepted whenever there is a table to support it. -/
structure MadtPlatform where
  /-- The table, if the machine has one. -/
  madt : Option Madt
  /-- The model the firmware was told last. -/
  model : InterruptModel := .pic
  deriving DecidableEq, Repr

namespace MadtPlatform

/-- The platform without a table. -/
def absent : MadtPlatform :=
  { madt := none }

/-- The next entry of a type and a least length. -/
def search (p : MadtPlatform) (entryType : UInt8) (minLength : Nat) (cursor : Cursor) :
    Option MadtEntry × Cursor :=
  match p.madt with
  | none => (none, cursor)
  | some t =>
    let found := t.search entryType minLength cursor.offset
    (found.1, ⟨found.2⟩)

/-- Record the interrupt model; the APIC model needs a table. -/
def changeModel (p : MadtPlatform) (model : InterruptModel) : ModelReply MadtPlatform :=
  if model = .apic ∧ p.madt.isNone then
    { accepted := false
      platform := p
      lines := [⟨.info, "ACPI: APIC mode requested without a MADT"⟩] }
  else
    { accepted := true
      platform := { p with model }
      lines := [⟨.debug, s!"ACPI: interrupt model set to {model.name}"⟩] }

instance : PlatformTables MadtPlatform where
  supported p := p.madt.isSome
  search := search
  entryBound p := (p.madt.map fun t => t.bytes.length).getD 0
  changeModel := changeModel
  hasLegacyPics p := (p.madt.map Madt.hasLegacyPics).getD true

end MadtPlatform

end Interrupts.Acpi
