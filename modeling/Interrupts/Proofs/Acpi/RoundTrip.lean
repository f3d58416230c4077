import Interrupts.Proofs.Acpi.Walk

/-!
# Writing and reading the interrupt topology table

A `MadtImage` is a table before it is written out: what the header says and what each entry says,
down to the bytes that nobody reads. Its entries may be longer than they need to be, of any type,
and too short for their type; what an entry then means is `EntryImage.meaning`.

Reading the bytes of an image gives back what was written, whatever follows them. On the other hand
bytes that are accepted need not come from an image. `ReadSafely` says how they are read
nevertheless: only inside the table, each entry only inside itself, up to the first place where no
entry can be.
-/

namespace Interrupts.Acpi

/-- **The length from which on an entry of a type is read**; entries of other types are never. -/
def MadtEntry.leastLength? (entryType : UInt8) : Option Nat :=
  if entryType = localApicType then some localApicLength
  else if entryType = ioApicType then some ioApicLength
  else if entryType = overrideType then some overrideLength
  else none

/-! ## Images -/

/-- **An entry before it is written out.** -/
inductive EntryImage where
  | localApic (info : LocalApicInfo) (padding : Bytes)
  | ioApic (info : IoApicInfo) (reserved : UInt8) (padding : Bytes)
  | interruptOverride (info : InterruptOverride) (padding : Bytes)
  /-- An entry of another type, or one too short for its type. -/
  | other (entryType : UInt8) (payload : Bytes)
      (unread : ∀ least ∈ MadtEntry.leastLength? entryType, 2 + payload.length < least)

namespace EntryImage

/-- The entry that is read where the image was written. -/
def meaning : EntryImage → MadtEntry
  | localApic info _ => .localApic info
  | ioApic info _ _ => .ioApic info
  | interruptOverride info _ => .interruptOverride info
  | other entryType _ _ => .unknown entryType

/-- The bytes after the type and the length. -/
def payload : EntryImage → Bytes
  | localApic info padding =>
    info.processorId :: info.apicId :: (Bytes.encodeLE 4 info.flags.toNat ++ padding)
  | ioApic info reserved padding =>
    info.id :: reserved :: (Bytes.encodeLE 4 info.address.toNat
      ++ (Bytes.encodeLE 4 info.gsiBase.toNat ++ padding))
  | interruptOverride info padding =>
    info.bus :: info.irq :: (Bytes.encodeLE 4 info.gsi.toNat
      ++ (Bytes.encodeLE 2 info.flags.toNat ++ padding))
  | other _ payload _ => payload

/-- The length of the entry. -/
def length (e : EntryImage) : Nat :=
  2 + e.payload.length

/-- **The entry written out.** -/
def bytes (e : EntryImage) : Bytes :=
  e.meaning.entryType :: UInt8.ofNat e.length :: e.payload

/-- The place of the entry, when it is written at an offset. -/
def rawAt (e : EntryImage) (offset : Nat) : RawEntry :=
  { entryType := e.meaning.entryType, length := e.length, offset }

theorem length_bytes (e : EntryImage) : e.bytes.length = e.length :=
  Nat.add_comm _ 2

end EntryImage

/-- **A table before it is written out.** -/
structure MadtImage where
  /-- The part of the header that is not read here: the revision, the sum and the maker. -/
  maker : Bytes
  maker_length : maker.length = 28
  lapicAddress : UInt32
  flags : UInt32
  entries : List EntryImage
  /-- The length of an entry fits its byte. -/
  entry_fits : ∀ e ∈ entries, e.length < 256
  /-- The length of the table fits its field. -/
  fits : Madt.entriesOffset + (entries.flatMap EntryImage.bytes).length < UInt32.size

namespace MadtImage

/-- The length of the table. -/
def length (image : MadtImage) : Nat :=
  Madt.entriesOffset + (image.entries.flatMap EntryImage.bytes).length

/-- The header of the table, and the fields after it. -/
def head (image : MadtImage) : Bytes :=
  Madt.signature ++ (Bytes.encodeLE 4 image.length ++ (image.maker
    ++ (Bytes.encodeLE 4 image.lapicAddress.toNat ++ Bytes.encodeLE 4 image.flags.toNat)))

/-- **The table written out.** -/
def bytes (image : MadtImage) : Bytes :=
  image.head ++ image.entries.flatMap EntryImage.bytes

end MadtImage

/-! ## Reading an image -/

namespace EntryImage

variable (e : EntryImage)

/-- **An entry that was written is found** behind any bytes and before any. -/
theorem rawEntryAt_bytes (before after : Bytes) (hlow : Madt.entriesOffset ≤ before.length)
    (hfits : e.length < 256) :
    Madt.rawEntryAt ⟨before ++ (e.bytes ++ after)⟩ before.length
      = some (e.rawAt before.length) := by
  have htype : (before ++ (e.bytes ++ after))[before.length]? = some e.meaning.entryType := by
    simp [bytes]
  have hbyte : (before ++ (e.bytes ++ after))[before.length + 1]?
      = some (UInt8.ofNat e.length) := by
    simp [bytes]
  have hlength : (UInt8.ofNat e.length).toNat = e.length := Nat.mod_eq_of_lt hfits
  have htwo : 2 ≤ e.length := Nat.le_add_right 2 _
  rw [Madt.rawEntryAt_of_header hlow htype hbyte, hlength, if_neg]
  · rfl
  · simp only [List.length_append, length_bytes]
    omega

/-- **An entry that was written is read back.** -/
theorem parseEntry_bytes : Madt.parseEntry ⟨e.bytes⟩ (e.rawAt 0) = e.meaning := by
  have hio : MadtEntry.ioApicType ≠ MadtEntry.localApicType := by decide
  have hoverride : MadtEntry.overrideType ≠ MadtEntry.localApicType
      ∧ MadtEntry.overrideType ≠ MadtEntry.ioApicType := by decide
  cases e with
  | localApic info padding =>
    have hlength : MadtEntry.localApicLength ≤ (localApic info padding).length := by
      simp only [MadtEntry.localApicLength, length, payload, List.length_cons, List.length_append,
        Bytes.length_encodeLE]
      omega
    simp only [Madt.parseEntry, rawAt, meaning, MadtEntry.entryType, hlength, and_self, if_true]
    simp [bytes, payload, Bytes.field_encodeLE_append]
  | ioApic info reserved padding =>
    have hlength : MadtEntry.ioApicLength ≤ (ioApic info reserved padding).length := by
      simp only [MadtEntry.ioApicLength, length, payload, List.length_cons, List.length_append,
        Bytes.length_encodeLE]
      omega
    simp only [Madt.parseEntry, rawAt, meaning, MadtEntry.entryType, hio, hlength, false_and,
      and_self, if_false, if_true]
    simp [bytes, payload, Bytes.field_append_of_length_le, Bytes.field_encodeLE_append]
  | interruptOverride info padding =>
    have hlength : MadtEntry.overrideLength ≤ (interruptOverride info padding).length := by
      simp only [MadtEntry.overrideLength, length, payload, List.length_cons, List.length_append,
        Bytes.length_encodeLE]
      omega
    simp only [Madt.parseEntry, rawAt, meaning, MadtEntry.entryType, hoverride, hlength, false_and,
      and_self, if_false, if_true]
    simp [bytes, payload, Bytes.field_append_of_length_le, Bytes.field_encodeLE_append]
  | other entryType payload unread =>
    -- An entry that is long enough for a known type has another image.
    have hshort (known : UInt8) (least : Nat)
        (hleast : MadtEntry.leastLength? known = some least) :
        ¬(entryType = known ∧ least ≤ (other entryType payload unread).length) := by
      rintro ⟨rfl, hlong⟩
      exact Nat.not_le_of_lt (unread least hleast) hlong
    exact (if_neg (hshort _ _ rfl)).trans
      ((if_neg (hshort _ _ rfl)).trans (if_neg (hshort _ _ rfl)))

/-- What is read there does not depend on the place and on the bytes around it. -/
theorem parseEntry_bytes_append (before after : Bytes) :
    Madt.parseEntry ⟨before ++ (e.bytes ++ after)⟩ (e.rawAt before.length) = e.meaning := by
  rw [Madt.parseEntry_cut, ← e.parseEntry_bytes]
  congr 2
  simp [Madt.entryBytes, rawAt, ← length_bytes]

/-- **Entries that were written are read back**, up to the end of the table. -/
theorem entriesFrom_bytes (es : List EntryImage) (hfits : ∀ e ∈ es, e.length < 256)
    (before : Bytes) (hlow : Madt.entriesOffset ≤ before.length) :
    Madt.entriesFrom ⟨before ++ es.flatMap bytes⟩ before.length = es.map meaning := by
  induction es generalizing before with
  | nil =>
    refine Madt.entriesFrom_of_none (Madt.rawEntryAt_of_cut (.inr ?_))
    simp
  | cons e es ih =>
    obtain ⟨hfit, hrest⟩ := List.forall_mem_cons.mp hfits
    -- The other entries are behind this one, wherever it is.
    have hnext := ih hrest (before ++ e.bytes)
      (Nat.le_trans hlow (by simp only [List.length_append, Nat.le_add_right]))
    rw [List.append_assoc, List.length_append, length_bytes] at hnext
    rw [List.flatMap_cons, Madt.entriesFrom_of_some (e.rawEntryAt_bytes before _ hlow hfit),
      parseEntry_bytes_append, List.map_cons]
    exact congrArg _ hnext

end EntryImage

namespace MadtImage

variable (image : MadtImage)

theorem length_head : image.head.length = Madt.entriesOffset := by
  simp only [head, List.length_append, Bytes.length_encodeLE, image.maker_length]
  rfl

theorem length_bytes : image.bytes.length = image.length := by
  rw [bytes, List.length_append, length_head, length]

/-- The fields of the header are found one behind the other. -/
theorem field_bytes (trailing : Bytes) :
    (image.bytes ++ trailing).take 4 = Madt.signature
      ∧ (image.bytes ++ trailing).field 4 4 = image.length
      ∧ UInt32.ofNat ((image.bytes ++ trailing).field 36 4) = image.lapicAddress
      ∧ UInt32.ofNat ((image.bytes ++ trailing).field 40 4) = image.flags := by
  have hsignature : Madt.signature.length = 4 := rfl
  have hlength : image.length % Nat.pow 256 4 = image.length := Nat.mod_eq_of_lt image.fits
  have hnumber (n : UInt32) : UInt32.ofNat (n.toNat % Nat.pow 256 4) = n := by
    rw [Nat.mod_eq_of_lt (show n.toNat < Nat.pow 256 4 from n.toNat_lt), UInt32.ofNat_toNat]
  refine ⟨?_, ?_, ?_, ?_⟩
  all_goals simp only [bytes, head, List.append_assoc]
  · exact List.take_left' hsignature
  all_goals simp only [Bytes.field_append_of_length_le, Bytes.length_encodeLE, hsignature,
    image.maker_length, Nat.reduceLeDiff, Nat.reduceSub, Bytes.field_encodeLE_append]
  · exact hlength
  · exact hnumber _
  · exact hnumber _

/-- **The bytes of an image are accepted**, whatever follows them. -/
theorem parse_bytes (trailing : Bytes) :
    Madt.parse (image.bytes ++ trailing) = .ok ⟨image.bytes⟩ := by
  obtain ⟨hsignature, hlength, -⟩ := image.field_bytes trailing
  refine Madt.parse_eq_ok.mpr ⟨hsignature, ?_, ?_, ?_⟩
  · rw [hlength]
    exact Nat.le_add_right _ _
  · rw [hlength, List.length_append, length_bytes]
    exact Nat.le_add_right _ _
  · rw [hlength, List.take_left' image.length_bytes]

theorem lapicAddress_bytes : Madt.lapicAddress ⟨image.bytes⟩ = image.lapicAddress := by
  obtain ⟨-, -, hlapic, -⟩ := image.field_bytes []
  rwa [List.append_nil] at hlapic

theorem flags_bytes : Madt.flags ⟨image.bytes⟩ = image.flags := by
  obtain ⟨-, -, -, hflags⟩ := image.field_bytes []
  rwa [List.append_nil] at hflags

/-- The walk over the bytes of an image meets its entries in order, each with its meaning. -/
theorem entries_bytes : Madt.entries ⟨image.bytes⟩ = image.entries.map EntryImage.meaning := by
  have hentries := EntryImage.entriesFrom_bytes image.entries image.entry_fits image.head
    (Nat.le_of_eq image.length_head.symm)
  rwa [length_head] at hentries

end MadtImage

/-! ## Reading anything -/

/-- **How a table is read out of bytes that nobody vouches for.** -/
structure ReadSafely (bs : Bytes) (t : Madt) : Prop where
  /-- The table is as long as its header says, and made of the first bytes. -/
  cut : t.bytes.length = bs.field 4 4 ∧ t.bytes = bs.take (bs.field 4 4)
  /-- The entries are what is read at these places. -/
  entries : t.entries = t.raws.map t.parseEntry
  /-- The places are adjacent, from the first offset to the end of the walk. -/
  adjacent : Tiles Madt.entriesOffset t.raws (t.stopFrom Madt.entriesOffset)
  /-- The bytes at each place are the header of an entry of two bytes or more inside the table. -/
  shown : ∀ r ∈ t.raws, t.Shows r
  /-- The end of the walk is the first place where no entry can be. -/
  ended : t.BrokenAt (t.stopFrom Madt.entriesOffset)
  /-- There are no more places than the table has room for. -/
  few : 2 * t.raws.length + Madt.entriesOffset ≤ t.bytes.length
  /-- What is read at a place depends on the bytes of the entry there only. -/
  own : ∀ r ∈ t.raws, ∀ (t' : Madt) (r' : RawEntry), r'.entryType = r.entryType →
    r'.length = r.length → t'.entryBytes r' = t.entryBytes r → t'.parseEntry r' = t.parseEntry r
  /-- Bytes behind the table do not matter. -/
  blind : ∀ bs' : Bytes, bs'.take (bs.field 4 4) = bs.take (bs.field 4 4) → Madt.parse bs' = .ok t

/-- **Whatever is accepted is read safely.** -/
theorem readSafely_of_parse {bs : Bytes} {t : Madt} (h : Madt.parse bs = .ok t) :
    ReadSafely bs t := by
  obtain ⟨-, hlow, hhigh, ht⟩ := Madt.parse_eq_ok.mp h
  have hbytes : t.bytes = bs.take (bs.field 4 4) := congrArg Madt.bytes ht
  have hlength : t.bytes.length = bs.field 4 4 := by
    rw [hbytes, List.length_take_of_le hhigh]
  exact
    { cut := ⟨hlength, hbytes⟩
      entries := t.entriesFrom_eq_map _
      adjacent := t.tiles_rawFrom _
      shown := fun _ => Madt.shows_of_mem_rawFrom
      ended := Madt.brokenAt_stopFrom (Nat.le_refl _)
      few := by
        obtain ⟨hfew, hstop⟩ := t.stopFrom_bounds Madt.entriesOffset
        have hraws : t.raws.length = (t.rawFrom Madt.entriesOffset).length := rfl
        omega
      own := fun r _ t' r' htype hlen hsame => Madt.parseEntry_congr htype hlen hsame
      blind := fun bs' hsame => Madt.parse_congr h hsame }

/-- **The interrupt topology table is read back as it was written, and no bytes are misread.**
Reading a written table gives its addresses, its flags and its entries in order, whatever bytes
follow it; and whatever bytes are accepted, they are read inside the table, entry by entry, up to
the first place where no entry can be. -/
theorem parse_reads_back :
    (∀ (image : MadtImage) (trailing : Bytes), ∃ t, Madt.parse (image.bytes ++ trailing) = .ok t
        ∧ t.lapicAddress = image.lapicAddress
        ∧ t.flags = image.flags
        ∧ t.entries = image.entries.map EntryImage.meaning)
      ∧ ∀ (bs : Bytes) (t : Madt), Madt.parse bs = .ok t → ReadSafely bs t :=
  ⟨fun image trailing => ⟨_, image.parse_bytes trailing, image.lapicAddress_bytes,
    image.flags_bytes, image.entries_bytes⟩, fun _ _ => readSafely_of_parse⟩

/-- The part of the header that is not read, left blank. -/
theorem MadtImage.length_blank : (List.replicate 28 0 : Bytes).length = 28 :=
  rfl

/-- A table with a processor in an entry of nine bytes, an I/O APIC cut off after its header, and an
entry of a type nobody knows. -/
def oddImage : MadtImage where
  maker := List.replicate 28 0
  maker_length := MadtImage.length_blank
  lapicAddress := 0xFEE00000
  flags := 1
  entries :=
    [ .localApic { processorId := 3, apicId := 6, flags := 1 } [0xAA],
      .other MadtEntry.ioApicType [] (by decide),
      .other 9 [7, 7] (by decide) ]
  entry_fits := by decide
  fits := by decide

/-- A table whose only entry claims to be one byte long. -/
def stuckBytes : Bytes :=
  Madt.signature ++ (Bytes.encodeLE 4 46 ++ List.replicate 36 0 ++ [0, 1])

/-- A table with an odd byte after it reads back entry by entry, the entries of no known kind and of
a wrong length included, and a byte string whose walk gets stuck is read within its bounds. -/
theorem parse_reads_back_odd :
    (∃ t, Madt.parse (oddImage.bytes ++ [0xFF]) = .ok t
        ∧ t.entries
          = [.localApic { processorId := 3, apicId := 6, flags := 1 }, .unknown 1, .unknown 9])
      ∧ ReadSafely stuckBytes ⟨stuckBytes⟩ := by
  obtain ⟨t, hparse, -, -, hentries⟩ := parse_reads_back.1 oddImage [0xFF]
  exact ⟨⟨t, hparse, hentries⟩, parse_reads_back.2 stuckBytes ⟨stuckBytes⟩ rfl⟩

end Interrupts.Acpi
