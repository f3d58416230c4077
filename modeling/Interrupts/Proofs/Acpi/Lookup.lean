import Interrupts.Proofs.Acpi.FirmwareMemory

/-!
# Looking a firmware table up

A lookup goes through two lists of pointers, the 64-bit one first, and each pointer may lead
anywhere. `FirmwareView.candidates` is all these pointers in order, as far as the lists themselves
hold up, and `FirmwareView.Qualifies` says when the table behind a pointer is one that was asked
for. The main statement is that a lookup always comes to an end, and answers with the first table
that qualifies or with nothing when none does; so no pointer, however broken, hides a later one.
-/

namespace Interrupts.Acpi

/-! ## Sums -/

/-- The sum of all bytes, as large as it gets. -/
def byteSum (bs : Bytes) : Nat :=
  (bs.map UInt8.toNat).sum

/-- The running sum of a checksum wraps like the sum of the numbers. -/
theorem toNat_foldl_add (bs : Bytes) (a : UInt8) :
    (bs.foldl (· + ·) a).toNat = (a.toNat + byteSum bs) % 256 := by
  induction bs generalizing a with
  | nil =>
    show a.toNat = (a.toNat + 0) % 256
    rw [Nat.add_zero, Nat.mod_eq_of_lt a.toNat_lt]
  | cons b bs ih =>
    have hsum : byteSum (b :: bs) = b.toNat + byteSum bs := List.sum_cons
    rw [List.foldl_cons, ih, UInt8.toNat_add, Nat.mod_add_mod, hsum, Nat.add_assoc]

/-- **The checksum is the sum of all bytes, cut to one.** -/
theorem checksum_eq_zero_iff (bs : Bytes) : checksum bs = 0 ↔ byteSum bs % 256 = 0 := by
  have hsum : (checksum bs).toNat = byteSum bs % 256 := by
    rw [checksum, toNat_foldl_add, UInt8.toNat_zero, Nat.zero_add]
  rw [← hsum, ← UInt8.toNat_inj, UInt8.toNat_zero]

/-- **The bytes are a table that holds up**: as long as its header says, and of sum zero. -/
structure IsSound (bs : Bytes) : Prop where
  /-- The header is whole, so that its length can be read. -/
  header : headerLength ≤ bs.length
  /-- The length in the header is the number of bytes. -/
  length : bs.field 4 4 = bs.length
  /-- The bytes add up to zero in a byte. -/
  sum : byteSum bs % 256 = 0

/-- A checksum of zero says that the sum of the bytes is a multiple of 256. -/
theorem isValid_iff {bs : Bytes} : isValid bs = true ↔ IsSound bs := by
  unfold isValid readHeader?
  by_cases hshort : bs.length < headerLength
  · rw [if_pos hshort]
    exact ⟨nofun, fun h => absurd hshort (Nat.not_lt_of_le h.header)⟩
  · rw [if_neg hshort]
    simp only [Bool.and_eq_true, beq_iff_eq, checksum_eq_zero_iff]
    exact ⟨fun h => ⟨Nat.le_of_not_lt hshort, h.1, h.2⟩, fun h => ⟨h.length, h.sum⟩⟩

instance : DecidablePred IsSound := fun _ => decidable_of_iff _ isValid_iff

/-! ## The root pointer -/

/-- **The bytes are a root pointer**, and this is what it says. The second sum came with the 64-bit
list, in revision 2. -/
structure IsRoot (bs : Bytes) (root : Root) : Prop where
  signature : bs.take 8 = rootSignature
  /-- The sum of the first revision, over twenty bytes. -/
  sum : byteSum (bs.take 20) % 256 = 0
  /-- The sum over the whole structure, which older revisions do not have. -/
  wholeSum : 2 ≤ root.revision → byteSum bs % 256 = 0
  revision : root.revision = bs.field 15 1
  list32 : root.list32 = UInt64.ofNat (bs.field 16 4)
  list64 : root.list64 = UInt64.ofNat (bs.field 24 8)

/-- **A root table is accepted** when its signature and both of its sums are right; the second sum
is only asked for where the revision has it. -/
theorem Root.parse_eq_ok_iff {bs : Bytes} {root : Root} :
    Root.parse bs = .ok root ↔ IsRoot bs root := by
  unfold Root.parse
  dsimp only
  by_cases hsignature : bs.take 8 = rootSignature
  · rw [if_neg (by simp [hsignature])]
    by_cases hsum : checksum (bs.take rootLengthV1) = 0
    · rw [if_neg (by simp [hsum])]
      have hsum' : byteSum (bs.take 20) % 256 = 0 := (checksum_eq_zero_iff _).mp hsum
      by_cases hwhole : 2 ≤ bs.field 15 1 ∧ checksum bs ≠ 0
      · rw [if_pos hwhole]
        refine ⟨nofun, fun h => ?_⟩
        have hzero := h.wholeSum (h.revision ▸ hwhole.1)
        exact absurd ((checksum_eq_zero_iff bs).mpr hzero) hwhole.2
      -- All tests are passed, so what is left is what the root says.
      · rw [if_neg hwhole]
        constructor
        · rintro ⟨⟩
          refine ⟨hsignature, hsum', fun hrevision => ?_, rfl, rfl, rfl⟩
          exact (checksum_eq_zero_iff bs).mp
            (Decidable.of_not_not fun hne => hwhole ⟨hrevision, hne⟩)
        · rintro ⟨-, -, -, hrevision, hlist32, hlist64⟩
          rw [← hrevision, ← hlist32, ← hlist64]
    · rw [if_pos (by simpa using hsum)]
      exact ⟨nofun, fun h => absurd ((checksum_eq_zero_iff _).mpr h.sum) hsum⟩
  · rw [if_pos (by simpa using hsignature)]
    exact ⟨nofun, fun h => absurd h.signature hsignature⟩

namespace FirmwareView

variable (v : FirmwareView)

/-! ## Candidates -/

/-- The pointers in the list at an address, each `width` bytes wide, in order; none when no list
that holds up can be read there. -/
def listed (width : Nat) (list : UInt64) : List UInt64 :=
  match v.table? list with
  | none => []
  | some t =>
    if IsSound t.bytes then
      (List.range ((t.bytes.length - headerLength) / width)).map fun i =>
        UInt64.ofNat (t.bytes.field (headerLength + i * width) width)
    else []

/-- **The pointers that a lookup goes through**, in order: those of the 64-bit list, which a root
pointer of revision 2 has, and those of the 32-bit list. -/
def candidates (root : Root) : List UInt64 :=
  (if 2 ≤ root.revision then v.listed 8 root.list64 else []) ++ v.listed 4 root.list32

/-- **A pointer leads to a table with a signature**: a table can be read there, which starts with
the signature and holds up. -/
structure Qualifies (signature : Bytes) (p : UInt64) (t : Table) : Prop where
  /-- There is a whole table at the pointer. -/
  present : v.table? p = some t
  signature : t.bytes.take 4 = signature
  sound : IsSound t.bytes

/-- **The answer is the first table that qualifies**, or there is none. -/
def IsFirst (signature : Bytes) (ps : List UInt64) : Option Table → Prop
  | some t => ∃ before p after, ps = before ++ p :: after ∧ v.Qualifies signature p t
      ∧ ∀ q ∈ before, ∀ t', ¬v.Qualifies signature q t'
  | none => ∀ p ∈ ps, ∀ t, ¬v.Qualifies signature p t

/-- The table with a signature that a pointer leads to, if it does. -/
def hit? (signature : Bytes) (p : UInt64) : Option Table :=
  (v.table? p).filter fun t => t.bytes.take 4 == signature && isValid t.bytes

variable {v} {signature : Bytes} {p : UInt64} {t : Table}

theorem hit?_eq_some : v.hit? signature p = some t ↔ v.Qualifies signature p t := by
  rw [hit?, Option.filter_eq_some_iff, Bool.and_eq_true, beq_iff_eq, isValid_iff]
  exact ⟨fun h => ⟨h.1, h.2.1, h.2.2⟩, fun h => ⟨h.present, h.signature, h.sound⟩⟩

theorem hit?_eq_none : v.hit? signature p = none ↔ ∀ t, ¬v.Qualifies signature p t := by
  rw [Option.eq_none_iff_forall_ne_some]
  exact forall_congr' fun t => not_congr hit?_eq_some

/-- Going through pointers ends at the first that leads to such a table. -/
theorem isFirst_findSome? (ps : List UInt64) :
    v.IsFirst signature ps (ps.findSome? (v.hit? signature)) := by
  cases hfind : ps.findSome? (v.hit? signature) with
  | none =>
    intro p hp
    exact hit?_eq_none.mp (List.findSome?_eq_none_iff.mp hfind p hp)
  | some t =>
    obtain ⟨before, p, after, hsplit, hhit, hbefore⟩ := List.findSome?_eq_some_iff.mp hfind
    exact ⟨before, p, after, hsplit, hit?_eq_some.mp hhit,
      fun q hq => hit?_eq_none.mp (hbefore q hq)⟩

/-- The pointers behind the header of a list are those at these places. -/
theorem pointers_drop (width : Nat) (bs : Bytes) :
    pointers width (bs.drop headerLength)
      = (List.range ((bs.length - headerLength) / width)).map fun i =>
        UInt64.ofNat (bs.field (headerLength + i * width) width) := by
  rw [pointers, List.length_drop]
  refine List.map_congr_left fun i _ => ?_
  rw [Bytes.field_drop]

/-! ## Lookups -/

variable {σ P : Type} [Logger (EStateM Stop σ)] [Paging P (EStateM Stop σ)]
  [PhysicalMemory (EStateM Stop σ)] {paging : P} {seen : σ → Prop}

/-- **Going through pointers**, one after the other. -/
theorem Shown.scan (hshown : v.Shown paging seen) (hroomy : v.Roomy) (signature : Bytes)
    (ps : List UInt64) :
    Answers seen (scan paging signature ps) (ps.findSome? (v.hit? signature)) := by
  induction ps with
  | nil => exact .pure none
  | cons p ps ih =>
    rw [Acpi.scan, List.findSome?_cons, hit?]
    refine (hshown.mapTable hroomy p).bind ?_
    -- Whatever is wrong with this table, the others are still looked at.
    cases v.table? p with
    | none => exact ih
    | some t =>
      dsimp only
      by_cases hsignature : t.bytes.take 4 = signature
      · by_cases hvalid : isValid t.bytes = true
        · simp only [hsignature, hvalid, bne_self_eq_false, Bool.false_eq_true, if_false, if_true,
            Option.filter_some, beq_self_eq_true, Bool.and_self]
          exact .pure _
        · simp only [hsignature, hvalid, bne_self_eq_false, Bool.false_eq_true, if_false,
            Option.filter_some, Bool.and_false]
          exact (hshown.line _ _).bind ih
      · simp only [bne_iff_ne.mpr hsignature, if_true, Option.filter_some,
          beq_eq_false_iff_ne.mpr hsignature, Bool.false_and, Bool.false_eq_true, if_false]
        exact ih

/-- Scanning a list of tables comes to the first table of the list, as memory shows it, that has the
signature and a right sum. -/
theorem Shown.scanList (hshown : v.Shown paging seen) (hroomy : v.Roomy) (signature : Bytes)
    (width : Nat) (list : UInt64) :
    Answers seen (scanList paging signature width list)
      ((v.listed width list).findSome? (v.hit? signature)) := by
  unfold Acpi.scanList listed
  refine (hshown.mapTable hroomy list).bind ?_
  cases v.table? list with
  | none => exact .pure none
  | some t =>
    dsimp only
    by_cases hsound : IsSound t.bytes
    · rw [if_pos (isValid_iff.mpr hsound), if_pos hsound, ← pointers_drop]
      exact hshown.scan hroomy signature _
    · rw [if_neg fun h => hsound (isValid_iff.mp h), if_neg hsound]
      exact .pure none

/-- There is no list at the null address. -/
theorem listed_zero (width : Nat) : v.listed width 0 = [] := by
  rw [listed, table?, if_pos rfl]

/-- **A lookup goes through all candidates.** -/
theorem Shown.find (hshown : v.Shown paging seen) (hroomy : v.Roomy) (root : Root)
    (signature : Bytes) :
    Answers seen (Tables.find { root, paging } signature)
      ((v.candidates root).findSome? (v.hit? signature)) := by
  have h64 : Answers seen (Tables.find64 { root, paging } signature)
      ((if 2 ≤ root.revision then v.listed 8 root.list64 else []).findSome?
        (v.hit? signature)) := by
    unfold Tables.find64
    by_cases hrevision : 2 ≤ root.revision
    · rw [if_pos hrevision]
      by_cases hnull : root.list64 = 0
      · rw [if_neg fun h => h.2 hnull, hnull, listed_zero]
        exact .pure none
      · rw [if_pos ⟨hrevision, hnull⟩]
        exact hshown.scanList hroomy signature 8 root.list64
    · rw [if_neg fun h => hrevision h.1, if_neg hrevision]
      exact .pure none
  have h32 : Answers seen (Tables.find32 { root, paging } signature)
      ((v.listed 4 root.list32).findSome? (v.hit? signature)) := by
    unfold Tables.find32
    by_cases hnull : root.list32 = 0
    · rw [if_neg fun h => h hnull, hnull, listed_zero]
      exact .pure none
    · rw [if_pos hnull]
      exact hshown.scanList hroomy signature 4 root.list32
  rw [candidates, List.findSome?_append]
  refine h64.bind ?_
  -- The second list is only asked when the first one has no answer.
  cases List.findSome? (v.hit? signature)
      (if 2 ≤ root.revision then v.listed 8 root.list64 else []) with
  | some t => exact .pure (some t)
  | none =>
    refine h32.bind ?_
    cases (v.listed 4 root.list32).findSome? (v.hit? signature) with
    | some t => exact .pure (some t)
    | none => exact (hshown.line _ _).bind (.pure none)

/-- **Accepting a root pointer** depends on its bytes only. -/
theorem Shown.fromRoot (hshown : v.Shown paging seen) (hroomy : v.Roomy) (rsdp : UInt64) :
    ∃ tables?, Answers seen (Tables.fromRoot paging rsdp) tables?
      ∧ ∀ t, t ∈ tables? ↔ t.paging = paging
        ∧ ∃ bs, v.read rsdp rootLength = some bs ∧ IsRoot bs t.root := by
  unfold Tables.fromRoot
  have hread := hshown.mapBytes hroomy rsdp (show rootLength < UInt64.size by decide)
  cases hbytes : v.read rsdp rootLength with
  | none =>
    rw [hbytes] at hread
    exact ⟨none, hread.bind (.pure none), fun t => ⟨nofun, fun ⟨_, _, h, _⟩ => (nomatch h)⟩⟩
  | some bs =>
    rw [hbytes] at hread
    cases hparse : Root.parse bs with
    | ok root =>
      refine ⟨some { root, paging }, hread.bind (by simp only [hparse]; exact .pure _), ?_⟩
      rintro ⟨root', paging'⟩
      constructor
      · rintro ⟨⟩
        exact ⟨rfl, bs, rfl, Root.parse_eq_ok_iff.mp hparse⟩
      · rintro ⟨rfl, _, ⟨⟩, hroot⟩
        cases hparse.symm.trans (Root.parse_eq_ok_iff.mpr hroot)
        rfl
    | error e =>
      refine ⟨none, hread.bind (by simp only [hparse]; exact (hshown.line _ _).bind (.pure _)),
        fun t => ⟨nofun, ?_⟩⟩
      rintro ⟨-, _, ⟨⟩, hroot⟩
      exact nomatch hparse.symm.trans (Root.parse_eq_ok_iff.mpr hroot)

/-- **A lookup answers with the first table that qualifies**, whatever is in memory and wherever
mappings make it appear.

A root pointer is accepted when its bytes can be read and hold up, and never otherwise. With an
accepted one every lookup comes to an end; its answer is the first table with the signature among
those that the pointers of both lists lead to, and there is no answer only when none of them leads
to such a table. Every table that is read on the way has a whole header, so that its signature, and
the pointers behind the header, can be cut out of it. -/
theorem find_isFirst (hshown : v.Shown paging seen) (hroomy : v.Roomy) (rsdp : UInt64) {s : σ}
    (hs : seen s) :
    (∃ tables? s', Tables.fromRoot (m := EStateM Stop σ) paging rsdp s = .ok tables? s' ∧ seen s'
        ∧ (∀ t, t ∈ tables? ↔ t.paging = paging
          ∧ ∃ bs, v.read rsdp rootLength = some bs ∧ IsRoot bs t.root)
        ∧ ∀ t ∈ tables?, ∀ signature s₁, seen s₁ →
          ∃ table? s₂, t.find (m := EStateM Stop σ) signature s₁ = .ok table? s₂ ∧ seen s₂
            ∧ v.IsFirst signature (v.candidates t.root) table?)
      ∧ ∀ p s₁, seen s₁ → ∃ table? s₂, mapTable (m := EStateM Stop σ) paging p s₁ = .ok table? s₂
        ∧ seen s₂ ∧ ∀ t ∈ table?, headerLength ≤ t.bytes.length := by
  constructor
  · obtain ⟨tables?, hanswers, hroot⟩ := hshown.fromRoot hroomy rsdp
    obtain ⟨s', hrun, hs'⟩ := hanswers s hs
    refine ⟨tables?, s', hrun, hs', hroot, fun t ht signature s₁ hs₁ => ?_⟩
    obtain ⟨root, paging'⟩ := t
    obtain ⟨rfl, -⟩ := (hroot _).mp ht
    obtain ⟨s₂, hfind, hs₂⟩ := hshown.find hroomy root signature s₁ hs₁
    exact ⟨_, s₂, hfind, hs₂, isFirst_findSome? _⟩
  · intro p s₁ hs₁
    obtain ⟨s₂, hmap, hs₂⟩ := hshown.mapTable hroomy p s₁ hs₁
    exact ⟨_, s₂, hmap, hs₂, fun t ht => headerLength_le_of_table? ht⟩

end FirmwareView

end Interrupts.Acpi

namespace Interrupts.Sim.Firmware

/-! ## A damaged image -/

open Acpi

/-- Bytes with one of them replaced, so that their sum is zero. -/
def balanced (bs : Bytes) (place : Nat) : Bytes :=
  bs.set place (bs[place]?.getD 0 - checksum bs)

/-- A table with a signature and a body. -/
def tableBytes (signature : String) (body : Bytes) : Bytes :=
  balanced (signature.toList.map (fun c => c.toNat.toUInt8)
    ++ Bytes.encodeLE 4 (headerLength + body.length) ++ List.replicate 28 0 ++ body) 9

/-- A root pointer of revision 2 with lists at two addresses. -/
def rootBytes (list32 list64 : Nat) : Bytes :=
  balanced (balanced (rootSignature ++ List.replicate 7 0 ++ [2] ++ Bytes.encodeLE 4 list32) 8
    ++ Bytes.encodeLE 4 rootLength ++ Bytes.encodeLE 8 list64 ++ List.replicate 4 0) 32

/-- The 64-bit list leads nowhere, to an address that is none, and to a table whose sum is wrong;
the 32-bit list to that table, and to a good one. -/
def damaged : Firmware where
  base := 0xE0000
  memory := rootBytes 0xE0084 0xE0024
    ++ (tableBytes "XSDT" (Bytes.encodeLE 8 0 ++ Bytes.encodeLE 8 0x10000000000000
      ++ Bytes.encodeLE 8 0xE0060)
    ++ (tableBytes "APIC" []).set 12 1
    ++ tableBytes "RSDT" (Bytes.encodeLE 4 0xE0060 ++ Bytes.encodeLE 4 0xE00B0)
    ++ tableBytes "APIC" [])

/-- Look the interrupt topology table up from the root pointer; answers where it is. -/
def locateMadt (rsdp : UInt64) : BenchM Firmware (Option UInt64) := do
  match ← Tables.fromRoot ({} : FirmwarePaging) rsdp with
  | none => pure none
  | some t => do pure ((← t.find Madt.signature).map Table.phys)

/-- Both pointers of the 64-bit list that could be followed lead to nothing good, and the damaged
table comes first in the 32-bit list too; the lookup still finds the good one. -/
theorem find_isFirst_damaged :
    (damaged.view.Shown ({} : FirmwarePaging) damaged.Same ∧ damaged.view.Roomy
        ∧ damaged.Same { device := damaged })
      ∧ ∃ t s table s', Tables.fromRoot (m := BenchM Firmware) ({} : FirmwarePaging) 0xE0000
          { device := damaged } = .ok (some t) s
        ∧ t.find (m := BenchM Firmware) Madt.signature s = .ok (some table) s'
        ∧ table.phys = 0xE00B0
        ∧ damaged.view.IsFirst Madt.signature (damaged.view.candidates t.root) (some table) := by
  have hshown : damaged.view.Shown ({} : FirmwarePaging) damaged.Same := shown (by decide +kernel)
  have hroomy : damaged.view.Roomy := by
    intro phys length h
    change damaged.answer phys length = _ at h
    unfold answer at h
    rw [show damaged.failures = [] from rfl, List.find?_nil] at h
    dsimp only at h
    split at h <;> exact nomatch h
  have hsame : damaged.Same { device := damaged } := ⟨rfl, rfl, rfl⟩
  refine ⟨⟨hshown, hroomy, hsame⟩, ?_⟩
  have hwhere : ∃ s, locateMadt 0xE0000 { device := damaged } = .ok (some 0xE00B0) s := by
    have hrun : (match locateMadt 0xE0000 { device := damaged } with
        | .ok phys? _ => phys?
        | .error _ _ => none) = some 0xE00B0 := by decide +kernel
    cases h : locateMadt 0xE0000 { device := damaged } with
    | ok phys? s =>
      rw [h] at hrun
      exact ⟨s, hrun ▸ rfl⟩
    | error e s =>
      rw [h] at hrun
      exact nomatch hrun
  obtain ⟨s₂, hwhere⟩ := hwhere
  obtain ⟨⟨tables?, s, hroot, hs, -, hfind⟩, -⟩ :=
    FirmwareView.find_isFirst hshown hroomy 0xE0000 hsame
  obtain ⟨tables?', s', hroot', hrest⟩ := bind_eq_ok.mp hwhere
  cases hroot.symm.trans hroot'
  cases tables? with
  | none => exact nomatch hrest
  | some t =>
    obtain ⟨table?, s₁, hrun, hs₁, hfirst⟩ := hfind t rfl Madt.signature s hs
    obtain ⟨table?', s₁', hrun', hpure⟩ := bind_eq_ok.mp hrest
    cases hrun.symm.trans hrun'
    obtain ⟨hphys, -⟩ := pure_eq_ok.mp hpure
    obtain ⟨table, rfl, hplace⟩ := Option.map_eq_some_iff.mp hphys
    exact ⟨t, s, table, s₁, hroot, hrun, hplace, hfirst⟩

end Interrupts.Sim.Firmware
