import Mathlib.Algebra.GroupWithZero.Nat
import Interrupts.Acpi.Tables
import Interrupts.Proofs.Discipline
import Interrupts.Proofs.Fields
import Interrupts.Sim.Firmware

/-!
# Firmware memory, as it is seen

Nobody vouches for the tables that the firmware leaves in memory, nor for the place where a mapping
makes them appear. A `FirmwareView` is any of what may be seen: for each range of physical memory
either an address or a refusal, and a byte at every address.

Looking a table up only looks. It may log lines, and mapping memory may change whatever the paging
keeps, but what is seen stays the same: the world stays one that *shows* the view. In such a world a
computation either goes on to an answer that the view alone decides, or it runs out of virtual
addresses. `Answers` says the former, and this module says it of reading memory and of reading a
whole table.
-/

namespace Interrupts.Acpi

/-! ## Computations that the view decides -/

section Answering

variable {σ α β : Type} {seen : σ → Prop}

/-- **The computation returns this answer** in every world that shows what is to be seen, and leaves
such a world. -/
def Answers (seen : σ → Prop) (x : EStateM Stop σ α) (a : α) : Prop :=
  ∀ s, seen s → ∃ s', x s = .ok a s' ∧ seen s'

namespace Answers

theorem pure (a : α) : Answers seen (Pure.pure a) a :=
  fun s hs => ⟨s, rfl, hs⟩

theorem bind {x : EStateM Stop σ α} {f : α → EStateM Stop σ β} {a : α} {b : β}
    (hx : Answers seen x a) (hf : Answers seen (f a) b) : Answers seen (x >>= f) b := by
  intro s hs
  obtain ⟨s₁, hrun, hs₁⟩ := hx s hs
  obtain ⟨s₂, hrest, hs₂⟩ := hf s₁ hs₁
  exact ⟨s₂, bind_eq_ok.mpr ⟨a, s₁, hrun, hrest⟩, hs₂⟩

/-- A choice answers what its branch does. -/
theorem ite {p : Prop} [Decidable p] {x y : EStateM Stop σ α} {a b : α}
    (hx : p → Answers seen x a) (hy : ¬p → Answers seen y b) :
    Answers seen (if p then x else y) (if p then a else b) := by
  by_cases h : p
  · rw [if_pos h, if_pos h]
    exact hx h
  · rw [if_neg h, if_neg h]
    exact hy h

end Answers

end Answering

/-! ## Views -/

/-- **What may be seen of firmware memory.** -/
structure FirmwareView where
  /-- Where a range of physical memory is made reachable, or why it is not. -/
  mapDevice : (phys length : UInt64) → Except PagingError UInt64
  /-- The byte at a virtual address. -/
  byteAt : UInt64 → UInt8

namespace FirmwareView

/-- The bytes from an address on. -/
def bytes (v : FirmwareView) (address : UInt64) (length : Nat) : Bytes :=
  (List.range length).map fun i => v.byteAt (address + UInt64.ofNat i)

@[simp] theorem length_bytes (v : FirmwareView) (address : UInt64) (length : Nat) :
    (v.bytes address length).length = length := by
  rw [bytes, List.length_map, List.length_range]

/-- **The bytes of a range of physical memory**, if it begins at a physical address and can be
mapped. -/
def read (v : FirmwareView) (phys : UInt64) (length : Nat) : Option Bytes :=
  if phys.toNat < 2 ^ 52 then
    match v.mapDevice phys (UInt64.ofNat length) with
    | .ok address => some (v.bytes address length)
    | .error _ => none
  else none

/-- **The table at a physical address**: its header tells how long it is, and is a part of it. -/
def table? (v : FirmwareView) (phys : UInt64) : Option Table :=
  if phys = 0 then none
  else match v.read phys headerLength with
    | none => none
    | some header =>
      if header.field 4 4 < headerLength then none
      else (v.read phys (header.field 4 4)).map (Table.mk phys)

/-- There are always virtual addresses left. -/
def Roomy (v : FirmwareView) : Prop :=
  ∀ phys length, v.mapDevice phys length ≠ .error .addressSpaceExhausted

variable {σ P : Type} [Logger (EStateM Stop σ)] [Paging P (EStateM Stop σ)]
  [PhysicalMemory (EStateM Stop σ)]

/-- **The worlds that show a view** through a paging: requests for mappings are answered as the view
says, mapped memory holds what the view says, and logging a line changes nothing of this. -/
structure Shown (v : FirmwareView) (paging : P) (seen : σ → Prop) : Prop where
  /-- A request for a mapping is answered as the view says. -/
  mapDevice : ∀ phys length,
    Answers seen (Paging.mapDevice paging phys length) (v.mapDevice phys length)
  /-- What was mapped can be read, byte for byte, as far as the view has bytes there. -/
  fetch : ∀ phys length address, length < UInt64.size →
    v.mapDevice phys (UInt64.ofNat length) = .ok address →
    Answers seen (PhysicalMemory.fetch address length) (v.bytes address length)
  /-- Logging neither fails nor takes the view away. -/
  line : ∀ level text, Answers seen (log level text) ()

/-! ## Reading memory -/

variable {v : FirmwareView} {paging : P} {seen : σ → Prop} {phys : UInt64} {length : Nat}
  {bs : Bytes} {t : Table}

/-- What is read is as long as was asked for. -/
theorem length_of_read (h : v.read phys length = some bs) : bs.length = length := by
  unfold read at h
  split at h
  next =>
    split at h
    next address _ =>
      cases h
      exact v.length_bytes address length
    next => exact nomatch h
  next => exact nomatch h

/-- **Memory is read as the view says.** -/
theorem Shown.mapBytes (hshown : v.Shown paging seen) (hroomy : v.Roomy) (phys : UInt64)
    (hlength : length < UInt64.size) :
    Answers seen (mapBytes paging phys length) (v.read phys length) := by
  unfold Acpi.mapBytes read
  have hphysical : Address.isPhysical phys = true ↔ phys.toNat < 2 ^ 52 := decide_eq_true_iff
  by_cases h : phys.toNat < 2 ^ 52
  · rw [if_pos (hphysical.mpr h), if_pos h]
    refine (hshown.mapDevice phys (UInt64.ofNat length)).bind ?_
    -- Only a refusal for want of virtual addresses would be fatal.
    cases hmap : v.mapDevice phys (UInt64.ofNat length) with
    | ok address => exact (hshown.fetch phys length address hlength hmap).bind (.pure _)
    | error e =>
      cases e with
      | addressSpaceExhausted => exact absurd hmap (hroomy _ _)
      | invalidRange => exact (hshown.line _ _).bind (.pure _)
      | notIdentityMapped => exact (hshown.line _ _).bind (.pure _)
  · rw [if_neg (fun h' => h (hphysical.mp h')), if_neg h]
    exact .pure none

/-- **A table is read as the view says.** -/
theorem Shown.mapTable (hshown : v.Shown paging seen) (hroomy : v.Roomy) (phys : UInt64) :
    Answers seen (mapTable paging phys) (v.table? phys) := by
  unfold Acpi.mapTable table?
  refine .ite (fun _ => .pure none) fun _ => ?_
  refine (hshown.mapBytes hroomy phys (by decide)).bind ?_
  cases hread : v.read phys headerLength with
  | none => exact .pure none
  | some header =>
    -- The header is there in full, so what it says about the length can be relied on.
    have hheader : ¬header.length < headerLength := by
      rw [length_of_read hread]
      exact Nat.lt_irrefl _
    simp only [readHeader?, if_neg hheader]
    refine .ite (fun _ => .pure none) fun _ => ?_
    have hfits : header.field 4 4 < UInt64.size :=
      Nat.lt_of_lt_of_le (header.field_lt 4 4) (by decide)
    refine (hshown.mapBytes hroomy phys hfits).bind ?_
    cases v.read phys (header.field 4 4) with
    | none => exact .pure none
    | some bs => exact .pure _

/-- **What a table is that can be read at an address.** -/
theorem table?_eq_some :
    v.table? phys = some t ↔ phys ≠ 0 ∧ t.phys = phys
      ∧ ∃ header, v.read phys headerLength = some header ∧ headerLength ≤ header.field 4 4
        ∧ v.read phys (header.field 4 4) = some t.bytes := by
  unfold table?
  by_cases hnull : phys = 0
  · rw [if_pos hnull]
    exact ⟨nofun, fun h => absurd hnull h.1⟩
  · rw [if_neg hnull]
    cases hread : v.read phys headerLength with
    | none => exact ⟨nofun, fun ⟨_, _, _, h, _⟩ => (nomatch h)⟩
    | some header =>
      dsimp only
      by_cases hshort : header.field 4 4 < headerLength
      · rw [if_pos hshort]
        refine ⟨nofun, ?_⟩
        rintro ⟨-, -, _, ⟨⟩, hlong, -⟩
        exact absurd hshort (Nat.not_lt_of_le hlong)
      · rw [if_neg hshort, Option.map_eq_some_iff]
        constructor
        · rintro ⟨bs, hbs, rfl⟩
          exact ⟨hnull, rfl, header, rfl, Nat.le_of_not_lt hshort, hbs⟩
        · rintro ⟨-, rfl, _, ⟨⟩, -, hbs⟩
          exact ⟨t.bytes, hbs, rfl⟩

/-- A table that can be read is long enough for its header. -/
theorem headerLength_le_of_table? (h : v.table? phys = some t) :
    headerLength ≤ t.bytes.length := by
  obtain ⟨-, -, header, -, hlong, hbytes⟩ := table?_eq_some.mp h
  rwa [length_of_read hbytes]

end FirmwareView

end Interrupts.Acpi

namespace Interrupts.Sim.Firmware

/-! ## The firmware memory of a bench -/

open Acpi

/-- What is to be seen of a stretch of firmware memory. -/
def view (f : Firmware) : FirmwareView where
  mapDevice := f.answer
  byteAt a := (f.memory[(a - f.base).toNat]?).getD 0

/-- **The bench has this firmware memory**, whatever was asked to be mapped meanwhile. -/
structure Same (f : Firmware) (b : Bench Firmware) : Prop where
  base : b.device.base = f.base
  memory : b.device.memory = f.memory
  failures : b.device.failures = f.failures

variable {f : Firmware}

/-- Firmware memory is mapped where it is, and only as far as it reaches. -/
theorem answer_eq_ok {phys length address : UInt64} (h : f.answer phys length = .ok address) :
    address = phys ∧ f.base.toNat ≤ phys.toNat
      ∧ phys.toNat + length.toNat ≤ f.base.toNat + f.memory.length := by
  unfold answer at h
  split at h
  next => exact nomatch h
  next =>
    split at h
    next hinside =>
      cases h
      exact ⟨rfl, hinside⟩
    next => exact nomatch h

/-- The bytes that a range inside the memory shows are those that are there. -/
theorem bytes_view {phys : UInt64} {length : Nat} (hlow : f.base.toNat ≤ phys.toNat)
    (hhigh : phys.toNat + length ≤ f.base.toNat + f.memory.length)
    (hfits : f.base.toNat + f.memory.length ≤ UInt64.size) :
    f.view.bytes phys length = (f.memory.drop (phys - f.base).toNat).take length := by
  have hoffset : (phys - f.base).toNat = phys.toNat - f.base.toNat :=
    UInt64.toNat_sub_of_le _ _ hlow
  refine List.ext_getElem ?_ fun i hi _ => ?_
  · rw [FirmwareView.length_bytes, List.length_take, List.length_drop]
    omega
  -- No sum wraps: the memory ends before the last address does.
  · rw [FirmwareView.length_bytes] at hi
    have hindex : (UInt64.ofNat i).toNat = i := by
      rw [UInt64.toNat_ofNat', Nat.mod_eq_of_lt]
      unfold UInt64.size at hfits
      omega
    have hsum : (phys + UInt64.ofNat i).toNat = phys.toNat + i := by
      rw [UInt64.toNat_add, hindex, Nat.mod_eq_of_lt]
      unfold UInt64.size at hfits
      omega
    have hplace : (phys + UInt64.ofNat i - f.base).toNat = (phys - f.base).toNat + i := by
      rw [UInt64.toNat_sub_of_le, hsum, hoffset]
      · omega
      · rw [UInt64.le_iff_toNat_le, hsum]
        omega
    rw [List.getElem_take, List.getElem_drop]
    simp only [FirmwareView.bytes, List.getElem_map, List.getElem_range, view, hplace]
    rw [List.getElem?_eq_getElem, Option.getD_some]

/-- **The memory of a bench is seen through its own paging.** -/
theorem shown (hfits : f.base.toNat + f.memory.length ≤ UInt64.size) :
    f.view.Shown ({} : FirmwarePaging) f.Same where
  mapDevice := by
    intro phys length b hb
    refine ⟨{ b with device := { b.device with maps := b.device.maps.push (phys, length) } }, ?_,
      ⟨hb.base, hb.memory, hb.failures⟩⟩
    -- The record of what was mapped does not change the answers.
    have hanswer : ∀ maps, { b.device with maps }.answer phys length = f.answer phys length := by
      intro maps
      unfold answer
      rw [hb.failures, hb.base, hb.memory]
    exact congrArg (EStateM.Result.ok · _) (hanswer _)
  fetch := by
    intro phys length address hlength hmap b hb
    obtain ⟨rfl, hlow, hhigh⟩ := answer_eq_ok hmap
    rw [UInt64.toNat_ofNat', Nat.mod_eq_of_lt hlength] at hhigh
    refine ⟨b, ?_, hb⟩
    rw [bytes_view hlow hhigh hfits, ← hb.memory, ← hb.base]
    rfl
  line := fun _ _ _ hb => ⟨_, rfl, hb.base, hb.memory, hb.failures⟩

end Interrupts.Sim.Firmware
