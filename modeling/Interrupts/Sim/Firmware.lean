import Interrupts.Acpi.Platform
import Interrupts.Sim.Bench

/-!
# Firmware memory and listed platforms

`Firmware` is a stretch of memory with tables in it, mapped at its own addresses. It records what is
asked to be mapped, and can be told to refuse some requests. `ListedPlatform` is a platform whose
entries are given as a list, in place of a table.
-/

namespace Interrupts.Sim

/-- A mapping that is refused: its address, its length if that matters, and the error. -/
structure MapFailure where
  phys : UInt64
  length : Option UInt64
  error : PagingError

/-- **A stretch of firmware memory.** -/
structure Firmware where
  base : UInt64
  memory : Bytes
  failures : List MapFailure := []
  /-- The requests so far. -/
  maps : Array (UInt64 × UInt64) := #[]

namespace Firmware

/-- Write bytes into the memory, as far as it reaches. -/
def place (f : Firmware) (phys : UInt64) (bytes : Bytes) : Firmware :=
  { f with memory := f.memory.overwrite (phys - f.base).toNat bytes }

/-- What becomes of a request. -/
def answer (f : Firmware) (phys length : UInt64) : Except PagingError UInt64 :=
  match f.failures.find? fun r => r.phys == phys && r.length.all (· == length) with
  | some r => .error r.error
  | none =>
    if f.base ≤ phys ∧ phys.toNat + length.toNat ≤ f.base.toNat + f.memory.length then .ok phys
    else .error .invalidRange

end Firmware

/-- The paging that reaches the firmware memory of a bench. -/
structure FirmwarePaging where

instance : Paging FirmwarePaging (BenchM Firmware) where
  mapDevice _ phys length := do
    BenchM.stepDevice fun f => { f with maps := f.maps.push (phys, length) }
    pure ((← get).device.answer phys length)
  identityMap _ _ _ := pure (.error .notIdentityMapped)
  unmap _ _ _ := pure (.error .notIdentityMapped)

instance : PhysicalMemory (BenchM Firmware) where
  fetch address length := do
    let f := (← get).device
    pure ((f.memory.drop (address - f.base).toNat).take length)
  place address bytes := BenchM.stepDevice fun f => f.place address bytes

/-- **A platform given as a list of entries**, each with the type it is listed under. -/
structure ListedPlatform where
  entries : List (UInt8 × Acpi.MadtEntry)
  supported : Bool := true
  /-- The firmware refuses the APIC model. -/
  refuse : Bool := false

namespace ListedPlatform

/-- The first entry of a type, and its position, counted from `index`. -/
def findFrom (entryType : UInt8) : (index : Nat) → List (UInt8 × Acpi.MadtEntry) →
    Option (Nat × Acpi.MadtEntry)
  | _, [] => none
  | index, e :: es =>
    if e.1 = entryType then some (index, e.2) else findFrom entryType (index + 1) es

/-- The next entry of a type; a cursor advances by one for each listed entry. -/
def search (p : ListedPlatform) (entryType : UInt8) (_minLength : Nat) (cursor : Acpi.Cursor) :
    Option Acpi.MadtEntry × Acpi.Cursor :=
  let start := Acpi.Cursor.start.offset
  if cursor.offset < start then (none, cursor)
  else
    let skipped := cursor.offset - start
    match findFrom entryType skipped (p.entries.drop skipped) with
    | none => (none, cursor)
    | some (index, e) => (some e, ⟨start + index + 1⟩)

instance : Acpi.PlatformTables ListedPlatform where
  supported p := p.supported
  search := search
  entryBound p := p.entries.length
  changeModel p model :=
    { accepted := !(p.refuse && model = .apic), platform := p, lines := [] }
  hasLegacyPics _ := true

end ListedPlatform

/-- **A platform of either kind.** -/
inductive AnyPlatform where
  | madt (p : Acpi.MadtPlatform)
  | listed (p : ListedPlatform)

namespace AnyPlatform

instance : Acpi.PlatformTables AnyPlatform where
  supported
    | .madt p => Acpi.PlatformTables.supported p
    | .listed p => Acpi.PlatformTables.supported p
  search
    | .madt p => Acpi.PlatformTables.search p
    | .listed p => Acpi.PlatformTables.search p
  entryBound
    | .madt p => Acpi.PlatformTables.entryBound p
    | .listed p => Acpi.PlatformTables.entryBound p
  changeModel
    | .madt p, model =>
      let r := Acpi.PlatformTables.changeModel p model
      { accepted := r.accepted, platform := .madt r.platform, lines := r.lines }
    | .listed p, model =>
      let r := Acpi.PlatformTables.changeModel p model
      { accepted := r.accepted, platform := .listed r.platform, lines := r.lines }
  hasLegacyPics
    | .madt p => Acpi.PlatformTables.hasLegacyPics p
    | .listed p => Acpi.PlatformTables.hasLegacyPics p

end AnyPlatform

end Interrupts.Sim
