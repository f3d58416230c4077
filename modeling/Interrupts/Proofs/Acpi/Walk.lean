import Interrupts.Acpi.Madt
import Interrupts.Proofs.Fields

/-!
# The places of the entries

Reading the interrupt topology table is a walk: from the place of one entry to the place just past
it, until there is none. `Madt.rawFrom` is the list of the places that such a walk visits, and the
entries that the table gives are what is read there.

The bytes of the table may be anything. Nevertheless the places lie one after the other inside the
table, what is read at one of them depends on the bytes of that entry only, and the walk ends at the
first place where no entry can be: where the header is cut off, or the length in it is too small or
leads out of the table.
-/

namespace Interrupts.Acpi

/-- **The entries lie one after the other**, from an offset to an offset. -/
def Tiles : Nat → List RawEntry → Nat → Prop
  | offset, [], stop => stop = offset
  | offset, r :: rs, stop => r.offset = offset ∧ Tiles r.stop rs stop

namespace Tiles

variable {rs : List RawEntry} {offset stop : Nat}

/-- A tiling does not go backwards. -/
theorem le (h : Tiles offset rs stop) : offset ≤ stop := by
  induction rs generalizing offset with
  | nil => exact Nat.le_of_eq h.symm
  | cons r rs ih =>
    obtain ⟨rfl, hrs⟩ := h
    exact Nat.le_trans (Nat.le_add_right _ _) (ih hrs)

/-- Entries that lie one after the other lie between the two offsets. -/
theorem bounds (h : Tiles offset rs stop) : ∀ r ∈ rs, offset ≤ r.offset ∧ r.stop ≤ stop := by
  induction rs generalizing offset with
  | nil => exact nofun
  | cons r rs ih =>
    obtain ⟨rfl, hrs⟩ := h
    refine List.forall_mem_cons.mpr ⟨⟨Nat.le_refl _, hrs.le⟩, fun r' hr' => ?_⟩
    obtain ⟨hlow, hhigh⟩ := ih hrs r' hr'
    exact ⟨Nat.le_trans (Nat.le_add_right _ _) hlow, hhigh⟩

/-- Two tilings in a row are one. -/
theorem append {rs' : List RawEntry} {middle : Nat} (h : Tiles offset rs middle)
    (h' : Tiles middle rs' stop) : Tiles offset (rs ++ rs') stop := by
  induction rs generalizing offset with
  | nil => exact (show middle = offset from h) ▸ h'
  | cons r rs ih => exact ⟨h.1, ih h.2⟩

/-- The last of the entries determines where they end. -/
theorem foldl_stop (h : Tiles offset rs stop) : rs.foldl (fun _ r => r.stop) offset = stop := by
  induction rs generalizing offset with
  | nil => exact h.symm
  | cons r rs ih => exact ih h.2

end Tiles

namespace Madt

variable {t : Madt} {offset : Nat} {r : RawEntry}

/-! ## One entry -/

/-- **The bytes of the table show this entry**, and it lies inside the table. -/
structure Shows (t : Madt) (r : RawEntry) : Prop where
  entryType : t.bytes[r.offset]? = some r.entryType
  length : ∃ b, t.bytes[r.offset + 1]? = some b ∧ b.toNat = r.length
  /-- An entry is no shorter than its own two bytes, which is what makes a walk move on. -/
  two_le : 2 ≤ r.length
  inside : r.stop ≤ t.bytes.length

theorem Shows.offset_lt_stop (h : t.Shows r) : r.offset < r.stop :=
  Nat.lt_add_of_pos_right (Nat.lt_of_lt_of_le Nat.zero_lt_two h.two_le)

/-- **No entry can begin at an offset**: its header is cut off, or it is shorter than its header or
overruns the table. -/
def BrokenAt (t : Madt) (offset : Nat) : Prop :=
  t.bytes.length < offset + 2
    ∨ ∃ b, t.bytes[offset + 1]? = some b ∧ (b.toNat < 2 ∨ t.bytes.length < offset + b.toNat)

/-- The length byte decides. -/
theorem brokenAt_iff {b : UInt8} (hb : t.bytes[offset + 1]? = some b) :
    t.BrokenAt offset ↔ b.toNat < 2 ∨ t.bytes.length < offset + b.toNat := by
  have hlt := (List.getElem?_eq_some_iff.mp hb).1
  constructor
  · rintro (hcut | ⟨b', hb', hbad⟩)
    · omega
    · exact Option.some.inj (hb.symm.trans hb') ▸ hbad
  · exact fun hbad => .inr ⟨b, hb, hbad⟩

theorem rawEntryAt_of_cut (h : offset < entriesOffset ∨ t.bytes.length < offset + 2) :
    t.rawEntryAt offset = none :=
  if_pos h

/-- Where there is a header, the length in it decides. -/
theorem rawEntryAt_of_header (h : entriesOffset ≤ offset) {entryType b : UInt8}
    (htype : t.bytes[offset]? = some entryType) (hb : t.bytes[offset + 1]? = some b) :
    t.rawEntryAt offset = if b.toNat < 2 ∨ t.bytes.length < offset + b.toNat then none
      else some { entryType, length := b.toNat, offset } := by
  have hlt := (List.getElem?_eq_some_iff.mp hb).1
  unfold rawEntryAt
  rw [if_neg (by omega), Bytes.field_one _ _ htype, Bytes.field_one _ _ hb, UInt8.ofNat_toNat]

/-- A header that is not cut off has two bytes. -/
theorem exists_header (h : ¬t.bytes.length < offset + 2) :
    ∃ entryType b, t.bytes[offset]? = some entryType ∧ t.bytes[offset + 1]? = some b :=
  ⟨_, _, List.getElem?_eq_getElem (by omega), List.getElem?_eq_getElem (by omega)⟩

/-- **An entry is found** where the bytes show it. -/
theorem rawEntryAt_eq_some :
    t.rawEntryAt offset = some r ↔ entriesOffset ≤ offset ∧ r.offset = offset ∧ t.Shows r := by
  -- An entry that is shown has its two header bytes, so there is none where these are cut off.
  by_cases hcut : offset < entriesOffset ∨ t.bytes.length < offset + 2
  · rw [rawEntryAt_of_cut hcut]
    refine ⟨nofun, ?_⟩
    rintro ⟨hlow, rfl, hshows⟩
    obtain ⟨b, hb, -⟩ := hshows.length
    have hlt := (List.getElem?_eq_some_iff.mp hb).1
    omega
  · obtain ⟨hlow, hlong⟩ := not_or.mp hcut
    obtain ⟨entryType, b, htype, hb⟩ := exists_header hlong
    rw [rawEntryAt_of_header (Nat.le_of_not_lt hlow) htype hb]
    constructor
    · intro hsome
      obtain ⟨hfits, hr⟩ := Option.ite_none_left_eq_some.mp hsome
      cases hr
      obtain ⟨htwo, hinside⟩ := not_or.mp hfits
      exact ⟨Nat.le_of_not_lt hlow, rfl, htype, ⟨b, hb, rfl⟩, Nat.le_of_not_lt htwo,
        Nat.le_of_not_lt hinside⟩
    · rintro ⟨-, rfl, hshows⟩
      obtain ⟨b', hb', hlength⟩ := hshows.length
      cases hb'.symm.trans hb
      cases htype.symm.trans hshows.entryType
      have htwo := hshows.two_le
      have hinside := hshows.inside
      simp only [RawEntry.stop] at hinside
      rw [if_neg (by omega), hlength]

/-- **No entry is found** where none can begin. -/
theorem rawEntryAt_eq_none (h : entriesOffset ≤ offset) :
    t.rawEntryAt offset = none ↔ t.BrokenAt offset := by
  by_cases hcut : t.bytes.length < offset + 2
  · exact ⟨fun _ => .inl hcut, fun _ => rawEntryAt_of_cut (.inr hcut)⟩
  · obtain ⟨entryType, b, htype, hb⟩ := exists_header hcut
    rw [rawEntryAt_of_header h htype hb, brokenAt_iff hb]
    by_cases hbad : b.toNat < 2 ∨ t.bytes.length < offset + b.toNat
    · simp only [hbad, if_true]
    · simp only [hbad, if_false, reduceCtorEq]

/-! ## All entries -/

/-- The places of the entries from an offset on. -/
def rawFrom (t : Madt) (offset : Nat) : List RawEntry :=
  match _h : t.rawEntryAt offset with
  | none => []
  | some r => r :: t.rawFrom r.stop
termination_by t.bytes.length - offset
decreasing_by
  have := rawEntryAt_bounds _h
  omega

/-- **The places of the entries of the table**, in order. -/
def raws (t : Madt) : List RawEntry :=
  t.rawFrom entriesOffset

/-- Where the walk from an offset ends. -/
def stopFrom (t : Madt) (offset : Nat) : Nat :=
  (t.rawFrom offset).foldl (fun _ r => r.stop) offset

/-- The list of entries ends where none can be read, and goes on behind each that can. -/
theorem rawFrom_of_none (h : t.rawEntryAt offset = none) : t.rawFrom offset = [] := by
  rw [rawFrom]
  split
  next => rfl
  next r hr => cases h.symm.trans hr

theorem rawFrom_of_some (h : t.rawEntryAt offset = some r) :
    t.rawFrom offset = r :: t.rawFrom r.stop := by
  rw [rawFrom]
  split
  next hnone => cases h.symm.trans hnone
  next r' hr' =>
    cases h.symm.trans hr'
    rfl

theorem stopFrom_of_none (h : t.rawEntryAt offset = none) : t.stopFrom offset = offset := by
  rw [stopFrom, rawFrom_of_none h]
  rfl

theorem stopFrom_of_some (h : t.rawEntryAt offset = some r) :
    t.stopFrom offset = t.stopFrom r.stop := by
  rw [stopFrom, rawFrom_of_some h]
  rfl

/-- **Induction along the walk**: whatever holds where the walk ends and, at each entry, is inherited
from just past it, holds everywhere. -/
theorem walk_induction {P : Nat → Prop} (none : ∀ offset, t.rawEntryAt offset = none → P offset)
    (some : ∀ offset r, t.rawEntryAt offset = some r → P r.stop → P offset) (offset : Nat) :
    P offset := by
  fun_induction t.rawFrom offset with
  | case1 offset h => exact none offset h
  | case2 offset r h ih => exact some offset r h ih

/-- The parsed entries end in the same place, and go on in the same way. -/
theorem entriesFrom_of_none (h : t.rawEntryAt offset = none) : t.entriesFrom offset = [] := by
  rw [entriesFrom]
  split
  next => rfl
  next r hr => cases h.symm.trans hr

theorem entriesFrom_of_some (h : t.rawEntryAt offset = some r) :
    t.entriesFrom offset = t.parseEntry r :: t.entriesFrom r.stop := by
  rw [entriesFrom]
  split
  next hnone => cases h.symm.trans hnone
  next r' hr' =>
    cases h.symm.trans hr'
    rfl

/-- **The entries are what is read at these places.** -/
theorem entriesFrom_eq_map (t : Madt) (offset : Nat) :
    t.entriesFrom offset = (t.rawFrom offset).map t.parseEntry := by
  induction offset using walk_induction (t := t) with
  | none offset h =>
    rw [rawFrom_of_none h, entriesFrom_of_none h]
    rfl
  | some offset r h ih => rw [rawFrom_of_some h, entriesFrom_of_some h, List.map_cons, ih]

/-- **The entries tile the table** from any offset to the place where the walk ends: each begins
where the one before it ends. -/
theorem tiles_rawFrom (t : Madt) (offset : Nat) :
    Tiles offset (t.rawFrom offset) (t.stopFrom offset) := by
  induction offset using walk_induction (t := t) with
  | none offset h =>
    rw [rawFrom_of_none h, stopFrom_of_none h]
    rfl
  | some offset r h ih =>
    rw [rawFrom_of_some h, stopFrom_of_some h]
    exact ⟨(rawEntryAt_bounds h).2.2, ih⟩

/-- The places on a walk are places where entries are found. -/
theorem rawEntryAt_of_mem_rawFrom : ∀ r ∈ t.rawFrom offset, t.rawEntryAt r.offset = some r := by
  induction offset using walk_induction (t := t) with
  | none offset h =>
    rw [rawFrom_of_none h]
    exact nofun
  | some offset r h ih =>
    rw [rawFrom_of_some h]
    have hplace : r.offset = offset := (rawEntryAt_bounds h).2.2
    exact List.forall_mem_cons.mpr ⟨hplace ▸ h, ih⟩

theorem shows_of_mem_rawFrom (h : r ∈ t.rawFrom offset) : t.Shows r :=
  (rawEntryAt_eq_some.mp (rawEntryAt_of_mem_rawFrom r h)).2.2

/-- **The walk ends where no entry can begin.** -/
theorem brokenAt_stopFrom (h : entriesOffset ≤ offset) : t.BrokenAt (t.stopFrom offset) := by
  induction offset using walk_induction (t := t) with
  | none offset hnone =>
    rw [stopFrom_of_none hnone]
    exact (rawEntryAt_eq_none h).mp hnone
  | some offset r hsome ih =>
    rw [stopFrom_of_some hsome]
    have := rawEntryAt_bounds hsome
    exact ih (by omega)

/-- The walk does not go back, and does not leave the table: it ends inside, unless it began outside
and did not move. -/
theorem stopFrom_bounds (t : Madt) (offset : Nat) :
    offset + 2 * (t.rawFrom offset).length ≤ t.stopFrom offset
      ∧ (t.stopFrom offset = offset ∨ t.stopFrom offset ≤ t.bytes.length) := by
  induction offset using walk_induction (t := t) with
  | none offset h =>
    rw [rawFrom_of_none h, stopFrom_of_none h]
    exact ⟨Nat.le_refl _, .inl rfl⟩
  | some offset r h ih =>
    rw [rawFrom_of_some h, stopFrom_of_some h, List.length_cons]
    have := rawEntryAt_bounds h
    exact ⟨by omega, by omega⟩

/-- Nothing is left where the walk ends. -/
theorem rawFrom_stopFrom (t : Madt) (offset : Nat) : t.rawFrom (t.stopFrom offset) = [] := by
  induction offset using walk_induction (t := t) with
  | none offset h => rw [stopFrom_of_none h, rawFrom_of_none h]
  | some offset r h ih => rw [stopFrom_of_some h, ih]

/-- **Going on from just past an entry** gives the entries after it. -/
theorem rawFrom_split {as bs : List RawEntry} (h : t.rawFrom offset = as ++ r :: bs) :
    bs = t.rawFrom r.stop ∧ Tiles offset (as ++ [r]) r.stop := by
  induction offset using walk_induction (t := t) generalizing as with
  | none offset hnone =>
    rw [rawFrom_of_none hnone] at h
    exact absurd h.symm (List.append_ne_nil_of_right_ne_nil _ (List.cons_ne_nil _ _))
  | some offset r' hsome ih =>
    rw [rawFrom_of_some hsome] at h
    have hplace : r'.offset = offset := (rawEntryAt_bounds hsome).2.2
    -- The entry is the first of the walk, or the walk goes on to it.
    cases as with
    | nil =>
      obtain ⟨rfl, rfl⟩ := List.cons.inj h
      exact ⟨rfl, hplace, rfl⟩
    | cons _ as =>
      obtain ⟨rfl, htail⟩ := List.cons.inj h
      exact ⟨(ih htail).1, hplace, (ih htail).2⟩

/-! ## What decides -/

/-- The bytes of an entry. -/
def entryBytes (t : Madt) (r : RawEntry) : Bytes :=
  (t.bytes.drop r.offset).take r.length

/-- **An entry cut out of the table is read as in its place.** -/
theorem parseEntry_cut (t : Madt) (r : RawEntry) :
    t.parseEntry r = parseEntry ⟨t.entryBytes r⟩ { r with offset := 0 } := by
  unfold parseEntry entryBytes
  simp only [List.drop_zero]
  -- Each kind of entry is read only if it is long enough for all its fields.
  split
  next hlocal =>
    have hlength : 8 ≤ r.length := hlocal.2
    simp (disch := omega) only [Bytes.field_take]
  next =>
    split
    next hio =>
      have hlength : 12 ≤ r.length := hio.2
      simp (disch := omega) only [Bytes.field_take]
    next =>
      split
      next hoverride =>
        have hlength : 10 ≤ r.length := hoverride.2
        simp (disch := omega) only [Bytes.field_take]
      next => rfl

/-- **Only the bytes of an entry decide what is read there**: the same bytes are read alike at any
place of any table. -/
theorem parseEntry_congr {t' : Madt} {r' : RawEntry} (htype : r'.entryType = r.entryType)
    (hlength : r'.length = r.length) (hbytes : t'.entryBytes r' = t.entryBytes r) :
    t'.parseEntry r' = t.parseEntry r := by
  rw [parseEntry_cut t', parseEntry_cut t, hbytes, htype, hlength]

variable {bs : Bytes}

/-- **When bytes are accepted**, and as which table. -/
theorem parse_eq_ok :
    parse bs = .ok t ↔ bs.take 4 = signature ∧ entriesOffset ≤ bs.field 4 4
      ∧ bs.field 4 4 ≤ bs.length ∧ t = ⟨bs.take (bs.field 4 4)⟩ := by
  unfold parse
  constructor
  · intro h
    split at h
    next => nomatch h
    next =>
      split at h
      next => nomatch h
      next hsignature =>
        dsimp only at h
        split at h
        next => nomatch h
        next hlength =>
          obtain ⟨hlow, hhigh⟩ := not_or.mp hlength
          exact ⟨Decidable.of_not_not hsignature, Nat.le_of_not_lt hlow, Nat.le_of_not_lt hhigh,
            (Except.ok.inj h).symm⟩
  · rintro ⟨hsignature, hlow, hhigh, rfl⟩
    rw [if_neg (by omega), if_neg (not_not_intro hsignature)]
    exact if_neg (by omega)

/-- **Only the bytes that the header counts decide**: what follows them does not matter. -/
theorem parse_congr {bs' : Bytes} (h : parse bs = .ok t)
    (hsame : bs'.take (bs.field 4 4) = bs.take (bs.field 4 4)) : parse bs' = .ok t := by
  obtain ⟨hsignature, hlow, hhigh, rfl⟩ := parse_eq_ok.mp h
  -- The length itself lies inside the bytes that it counts.
  have hheader : 8 ≤ bs.field 4 4 := Nat.le_trans (by decide) hlow
  have hfield : bs'.field 4 4 = bs.field 4 4 := by
    rw [← Bytes.field_take bs' 4 4 hheader, hsame, Bytes.field_take bs 4 4 hheader]
  have hlong : bs.field 4 4 ≤ bs'.length := by
    have := congrArg List.length hsame
    rw [List.length_take, List.length_take] at this
    omega
  refine parse_eq_ok.mpr ⟨?_, hfield ▸ hlow, hfield ▸ hlong, by rw [hfield, hsame]⟩
  have htake := congrArg (List.take 4) hsame
  rwa [List.take_take, List.take_take, Nat.min_eq_left (by omega), hsignature] at htake

end Madt

end Interrupts.Acpi
