import Interrupts.Memory.Window

/-!
# How far a mapped window reaches

A window that was granted ought to be usable over its whole length: each register has an address,
which is the direct map's offset plus the place of the register in physical memory, and a processor
can form it and the addresses of the three bytes after it. A window for which this is impossible
ought to be refused.

The direct map looks at both ends of the physical range, but only at the beginning of the virtual
one. So a window may begin in one half of the address space and run out of it, into the addresses in
the middle that no processor can form or past the last one. The main statement says when a request
keeps the promise: exactly when the registers of the window it is granted, if any, end in the half
that they begin in.
-/

namespace Interrupts

/-! ## The halves of the address space -/

namespace Address

/-- The first number past the half of the address space that an address lies in. -/
def halfEnd (a : Nat) : Nat :=
  if a < 0x800000000000 then 0x800000000000 else UInt64.size

/-- A number is the number of a canonical address. -/
def IsCanonicalAt (n : Nat) : Prop :=
  ∃ a : UInt64, a.toNat = n ∧ isCanonical a = true

/-- The canonical addresses are the two halves of the address space, as ranges of numbers. -/
theorem isCanonicalAt_iff {n : Nat} : IsCanonicalAt n
    ↔ n < 0x800000000000 ∨ 0xffff800000000000 ≤ n ∧ n < UInt64.size := by
  have hiff : ∀ a : UInt64,
      isCanonical a = true ↔ a.toNat < 0x800000000000 ∨ 0xffff800000000000 ≤ a.toNat := by
    intro a
    rw [isCanonical, Bool.or_eq_true, decide_eq_true_iff, decide_eq_true_iff]
  constructor
  · rintro ⟨a, rfl, ha⟩
    have hlt : a.toNat < UInt64.size := a.toNat_lt
    exact ((hiff a).mp ha).imp_right fun hle => ⟨hle, hlt⟩
  · intro hn
    have hlt : n < UInt64.size := by
      unfold UInt64.size at hn ⊢
      omega
    have hword : (UInt64.ofNat n).toNat = n := UInt64.toNat_ofNat_of_lt' hlt
    refine ⟨UInt64.ofNat n, hword, (hiff _).mpr ?_⟩
    rw [hword]
    exact hn.imp_right And.left

variable {base n : Nat}

/-- **Up to the end of its half, everything after a canonical address is canonical.** -/
theorem IsCanonicalAt.of_lt_halfEnd (hbase : IsCanonicalAt base) (hle : base ≤ n)
    (hlt : n < halfEnd base) : IsCanonicalAt n := by
  rw [isCanonicalAt_iff] at hbase ⊢
  unfold halfEnd at hlt
  split at hlt <;> omega

/-- **And the end of a half is not.** -/
theorem not_isCanonicalAt_halfEnd (base : Nat) : ¬IsCanonicalAt (halfEnd base) := by
  rw [isCanonicalAt_iff]
  unfold halfEnd UInt64.size
  split <;> omega

end Address

/-! ## Registers of a window -/

namespace Window

variable {w : Window} {offset : UInt64}

/-- **The window admits a register**: it is aligned and lies inside. -/
def Admits (w : Window) (offset : UInt64) : Prop :=
  offset % 4 = 0 ∧ offset.toNat + 4 ≤ w.size.toNat

/-- An offset that the window admits passes the check without an overflow on the way. -/
theorem admits_eq_true (h : w.Admits offset) : (w.admits offset : Except Stop Bool) = .ok true := by
  obtain ⟨haligned, hinside⟩ := h
  have hlt : offset.toNat + (4 : UInt64).toNat < UInt64.size :=
    Nat.lt_of_le_of_lt hinside w.size.toNat_lt
  have hle : offset + 4 ≤ w.size := by
    rw [UInt64.le_iff_toNat_le, UInt64.toNat_add, Nat.mod_eq_of_lt hlt]
    exact hinside
  unfold admits addWord64
  rw [if_pos haligned, if_pos hlt]
  exact congrArg Except.ok (decide_eq_true hle)

/-- **The address of a register** that is admitted is the sum, whether it is read or written. -/
theorem address_of_admits (h : w.Admits offset) :
    (w.readAddress offset : Except Stop UInt64) = addWord64 w.virtBase offset
      ∧ (w.writeAddress offset : Except Stop UInt64) = addWord64 w.virtBase offset := by
  unfold readAddress writeAddress
  rw [admits_eq_true h]
  exact ⟨rfl, rfl⟩

/-- A checked sum of words is a sum of numbers, and there is none where the numbers do not fit. -/
theorem addWord64_eq_ok_iff {a b v : UInt64} : (addWord64 a b : Except Stop UInt64) = .ok v
    ↔ v.toNat = a.toNat + b.toNat := by
  unfold addWord64
  by_cases hlt : a.toNat + b.toNat < UInt64.size
  · have hsum : (a + b).toNat = a.toNat + b.toNat := by
      rw [UInt64.toNat_add]
      exact Nat.mod_eq_of_lt hlt
    rw [if_pos hlt, ← hsum, UInt64.toNat_inj]
    exact ⟨fun h => (Except.ok.inj h).symm, fun h => congrArg Except.ok h.symm⟩
  · rw [if_neg hlt]
    refine ⟨fun h => (nomatch h), fun h => absurd ?_ hlt⟩
    rw [← h]
    exact v.toNat_lt

/-- **A window is usable over its whole length**, when its first register is meant to be at a place
in virtual memory: the address of each register that it admits is computed without overflow, for
reading and for writing. It is the place of the register, and it and the three bytes after it are
canonical. -/
def IsUsable (w : Window) (start : Nat) : Prop :=
  ∀ offset, w.Admits offset → ∃ address : UInt64,
    (w.readAddress offset : Except Stop UInt64) = .ok address
      ∧ (w.writeAddress offset : Except Stop UInt64) = .ok address
      ∧ address.toNat = start + offset.toNat
      ∧ ∀ i < 4, Address.IsCanonicalAt (address.toNat + i)

/-- The length of the registers of a window: what is left of its size after the last of them is
never accessed. -/
def registersLength (w : Window) : Nat :=
  4 * (w.size.toNat / 4)

/-- **A window is usable as far as its half of the address space goes.** -/
theorem isUsable_iff (hbase : Address.IsCanonicalAt w.virtBase.toNat) :
    w.IsUsable w.virtBase.toNat
      ↔ w.virtBase.toNat + w.registersLength ≤ Address.halfEnd w.virtBase.toNat := by
  unfold registersLength
  constructor
  · refine fun husable => Nat.le_of_not_lt fun hbeyond => ?_
    have hstart : w.virtBase.toNat < Address.halfEnd w.virtBase.toNat := by
      have hlt : w.virtBase.toNat < UInt64.size := w.virtBase.toNat_lt
      unfold Address.halfEnd
      split <;> omega
    -- The register that the end of the half falls into, and which of its bytes it is.
    generalize hend : Address.halfEnd w.virtBase.toNat = stop at hbeyond hstart
    have hsize : w.size.toNat < UInt64.size := w.size.toNat_lt
    have hword : (UInt64.ofNat (4 * ((stop - w.virtBase.toNat) / 4))).toNat
        = 4 * ((stop - w.virtBase.toNat) / 4) :=
      UInt64.toNat_ofNat_of_lt' (by omega)
    have hadmits : w.Admits (UInt64.ofNat (4 * ((stop - w.virtBase.toNat) / 4))) := by
      refine ⟨UInt64.toNat_inj.mp ?_, by omega⟩
      rw [UInt64.toNat_mod, hword]
      exact Nat.mul_mod_right 4 _
    obtain ⟨address, -, -, haddress, hbytes⟩ := husable _ hadmits
    rw [hword] at haddress
    have hbyte := hbytes (stop - address.toNat) (by omega)
    rw [show address.toNat + (stop - address.toNat) = stop by omega, ← hend] at hbyte
    exact Address.not_isCanonicalAt_halfEnd _ hbyte
  · intro hwithin offset hadmits
    obtain ⟨hread, hwrite⟩ := address_of_admits hadmits
    obtain ⟨haligned, hinside⟩ := hadmits
    have hmod : offset.toNat % 4 = 0 := by
      rw [← UInt64.toNat_inj, UInt64.toNat_mod] at haligned
      exact haligned
    have hcanonical : ∀ i < 4, Address.IsCanonicalAt (w.virtBase.toNat + offset.toNat + i) :=
      fun i hi => hbase.of_lt_halfEnd (by omega) (by omega)
    obtain ⟨address, haddress, -⟩ := hcanonical 0 (by decide)
    have hsum := addWord64_eq_ok_iff.mpr haddress
    exact ⟨address, hread.trans hsum, hwrite.trans hsum, haddress, haddress ▸ hcanonical⟩

end Window

/-! ## Requests to the direct map -/

namespace DirectMap

variable {d : DirectMap} {phys size : UInt64} {w : Window} {e : PagingError}

/-- **Ask the direct map for a window.** -/
def request (d : DirectMap) (phys size : UInt64) : Except PagingError Window :=
  Window.map (m := Id) d phys size

/-- The virtual address of a physical one is the sum with the offset, where that sum is canonical.
-/
theorem virtual?_eq_some {offset virt : UInt64} : virtual? offset phys = some virt
    ↔ virt.toNat = offset.toNat + phys.toNat ∧ Address.IsCanonicalAt virt.toNat := by
  unfold virtual?
  by_cases hlt : phys.toNat + offset.toNat < UInt64.size
  · have hsum : (phys + offset).toNat = offset.toNat + phys.toNat := by
      rw [UInt64.toNat_add, Nat.add_comm offset.toNat]
      exact Nat.mod_eq_of_lt hlt
    -- the range check is made on the word, and the statement on the number it stands for
    have hcanonical : Address.IsCanonicalAt (phys + offset).toNat
        ↔ Address.isCanonical (phys + offset) = true :=
      ⟨fun ⟨a, ha, h⟩ => UInt64.toNat_inj.mp ha ▸ h, fun h => ⟨_, rfl, h⟩⟩
    rw [if_pos hlt]
    constructor
    · intro h
      split at h
      · obtain rfl := Option.some.inj h
        exact ⟨hsum, hcanonical.mpr ‹_›⟩
      · exact nomatch h
    · rintro ⟨hvirt, h⟩
      obtain rfl : virt = phys + offset := UInt64.toNat_inj.mp (hvirt.trans hsum.symm)
      exact if_pos (hcanonical.mp h)
  · rw [if_neg hlt]
    refine ⟨fun h => (nomatch h), fun h => absurd ?_ hlt⟩
    rw [Nat.add_comm, ← h.1]
    exact virt.toNat_lt

/-- The virtual address of a device, if there is a direct map and the device has one. -/
def place? (d : DirectMap) (phys : UInt64) : Option UInt64 :=
  d.offset.bind fun offset => virtual? offset phys

/-- A direct map places an address exactly when it has an offset and the sum with it is canonical.
-/
theorem place?_eq_some {virt : UInt64} : d.place? phys = some virt
    ↔ ∃ offset, d.offset = some offset ∧ virt.toNat = offset.toNat + phys.toNat
      ∧ Address.IsCanonicalAt virt.toNat := by
  unfold place?
  rw [Option.bind_eq_some_iff]
  exact exists_congr fun offset => and_congr_right fun _ => virtual?_eq_some

/-- **What becomes of a request.** -/
theorem request_eq (d : DirectMap) (phys size : UInt64) : d.request phys size =
    if phys = 0 ∨ size = 0 then .error .invalidRange
    else if phys.toNat + size.toNat < UInt64.size then
      match d.place? phys with
      | none => .error .addressSpaceExhausted
      | some virt => .ok { virtBase := virt, physBase := phys, size }
    else .error .invalidRange := by
  unfold request Window.map
  -- the guards of the request and of the mapping in turn, the second of which the first has settled
  by_cases hnone : phys = 0 ∨ size = 0
  · rw [if_pos hnone, if_pos hnone]
    rfl
  rw [if_neg hnone, if_neg hnone, show (Paging.mapDevice (m := Id) d phys size)
    = pure (d.mapDevice phys size) from rfl, pure_bind]
  obtain ⟨hphys, hsize⟩ := not_or.mp hnone
  rw [mapDevice, if_neg hphys, rangeEnd, if_neg hsize]
  by_cases hlt : phys.toNat + size.toNat < UInt64.size
  · rw [if_pos hlt, if_pos hlt, place?]
    cases hoffset : d.offset with
    | none => rfl
    | some offset =>
      rw [Option.bind_some]
      simp only [bind, Except.bind]
      cases virtual? offset phys <;> rfl
  · rw [if_neg hlt, if_neg hlt]
    rfl

/-- **Which requests are granted**, and with which windows. -/
theorem request_eq_ok_iff : d.request phys size = .ok w
    ↔ phys ≠ 0 ∧ size ≠ 0 ∧ phys.toNat + size.toNat < UInt64.size
      ∧ (∃ offset, d.offset = some offset ∧ w.virtBase.toNat = offset.toNat + phys.toNat
        ∧ Address.IsCanonicalAt w.virtBase.toNat)
      ∧ w.physBase = phys ∧ w.size = size := by
  obtain ⟨virtBase, physBase, size'⟩ := w
  rw [request_eq, ← place?_eq_some]
  constructor
  · intro h
    split at h
    · exact nomatch h
    next hnone =>
      obtain ⟨hphys, hsize⟩ := not_or.mp hnone
      split at h
      · split at h
        · exact nomatch h
        next hplace =>
          cases h
          exact ⟨hphys, hsize, ‹_›, hplace, rfl, rfl⟩
      · exact nomatch h
  · rintro ⟨hphys, hsize, hlt, hplace, rfl, rfl⟩
    rw [if_neg (not_or.mpr ⟨hphys, hsize⟩), if_pos hlt, hplace]

/-- A request that is not granted was out of range, or there was no address for it. -/
theorem request_eq_error {e : PagingError} (h : d.request phys size = .error e) :
    e = .invalidRange ∨ e = .addressSpaceExhausted := by
  rw [request_eq] at h
  split at h
  · exact .inl (Except.error.inj h).symm
  · split at h
    · split at h
      · exact .inr (Except.error.inj h).symm
      · exact nomatch h
    · exact .inl (Except.error.inj h).symm

/-! ## The promise -/

/-- **What a request promises.** If a window is granted, it begins where the direct map has the
device, and is usable over its whole length. If none is granted, the request was out of range, or
there was no address for it. -/
structure KeepsPromise (d : DirectMap) (phys size : UInt64) : Prop where
  /-- Every register of a window that was granted can be reached. -/
  granted : ∀ w, d.request phys size = .ok w →
    ∃ offset, d.offset = some offset ∧ w.IsUsable (offset.toNat + phys.toNat)
  /-- A refusal has one of the two reasons. -/
  refused : ∀ e, d.request phys size = .error e →
    e = .invalidRange ∨ e = .addressSpaceExhausted

/-- **When a request keeps its promise**: exactly when no window is granted, or the registers of the
window end in the half of the address space that they begin in. A window is granted when the device
is at another place than 0, has some length and an end that fits a word, and begins at a canonical
address of the direct map. -/
theorem keepsPromise_iff (d : DirectMap) (phys size : UInt64) :
    (d.KeepsPromise phys size ↔ ∀ w, d.request phys size = .ok w →
        w.virtBase.toNat + w.registersLength ≤ Address.halfEnd w.virtBase.toNat)
      ∧ ∀ w, d.request phys size = .ok w
        ↔ phys ≠ 0 ∧ size ≠ 0 ∧ phys.toNat + size.toNat < UInt64.size
          ∧ (∃ offset, d.offset = some offset ∧ w.virtBase.toNat = offset.toNat + phys.toNat
            ∧ Address.IsCanonicalAt w.virtBase.toNat)
          ∧ w.physBase = phys ∧ w.size = size := by
  -- only the first address was checked, so what is left to ask is whether the range stays in its
  -- half
  have husable : ∀ w, d.request phys size = .ok w →
      ((∃ offset, d.offset = some offset ∧ w.IsUsable (offset.toNat + phys.toNat))
        ↔ w.virtBase.toNat + w.registersLength ≤ Address.halfEnd w.virtBase.toNat) := by
    intro w hw
    obtain ⟨-, -, -, ⟨offset, hoffset, hvirt, hcanonical⟩, -, -⟩ := request_eq_ok_iff.mp hw
    rw [← Window.isUsable_iff hcanonical, hvirt, hoffset]
    constructor
    · rintro ⟨_, ⟨⟩, h⟩
      exact h
    · exact fun h => ⟨offset, rfl, h⟩
  refine ⟨⟨fun h w hw => (husable w hw).mp (h.granted w hw), fun h => ?_⟩,
    fun w => request_eq_ok_iff⟩
  exact ⟨fun w hw => (husable w hw).mpr (h w hw), fun e => request_eq_error⟩

/-- **Windows that run out of their half are granted all the same**: two pages from the last one
below the middle of physical memory. Under the usual direct map the window begins in the last page of
all, and the addresses in its second page are no words; without an offset it begins in the last page
of the lower half, and they are not canonical. -/
theorem not_keepsPromise_lastPage :
    ¬({ offset := some 0xffff800000000000, identityLimit := defaultIdentityLimit } :
        DirectMap).KeepsPromise 0x7ffffffff000 0x2000
      ∧ ¬({ offset := some 0, identityLimit := defaultIdentityLimit } :
        DirectMap).KeepsPromise 0x7ffffffff000 0x2000 := by
  -- The first register of the second page.
  have hadmits : ∀ virt, ({ virtBase := virt, physBase := 0x7ffffffff000, size := 0x2000 } :
      Window).Admits 0x1000 := fun _ => ⟨rfl, show 0x1000 + 4 ≤ 0x2000 by decide⟩
  constructor
  · rintro ⟨hgranted, -⟩
    obtain ⟨_, -, husable⟩ := hgranted
      { virtBase := 0xfffffffffffff000, physBase := 0x7ffffffff000, size := 0x2000 } rfl
    obtain ⟨address, hread, -⟩ := husable 0x1000 (hadmits _)
    exact nomatch hread
  · rintro ⟨hgranted, -⟩
    obtain ⟨_, -, husable⟩ := hgranted
      { virtBase := 0x7ffffffff000, physBase := 0x7ffffffff000, size := 0x2000 } rfl
    obtain ⟨address, hread, -, -, hbytes⟩ := husable 0x1000 (hadmits _)
    obtain rfl : 0x800000000000 = address := Except.ok.inj hread
    exact absurd (Address.isCanonicalAt_iff.mp (hbytes 0 (by decide))) (by decide)

end DirectMap

end Interrupts
