import Interrupts.Proofs.Processor.Block
import Interrupts.Proofs.Discipline
import Interrupts.Sim.Board

/-!
# What the trampoline page holds

An image is offered to the page of low memory that processors start in. If it does not fit, it is
refused and the page stays as it is. If it does, it takes the place of the first bytes of the page,
and the block inside it says what it said in the image. From then on parameters are written into the
block, any number of times. The starting processor reads the last ones, field by field at the
offsets that its code was assembled for, and no other byte of the page has changed.

The kernel does not keep the page as a value: it checks the image and places its bytes in memory. A
`PageMemory` shows the page in such a memory, and there the kernel does what `Trampoline.copyTo`
says.
-/

namespace Interrupts

/-! ## Where the fields lie -/

namespace LaunchParams

/-- **The parameters lie in memory at an offset**, each in the bytes that the code of a starting
processor reads it from, lowest byte first. -/
structure LiesAt (p : LaunchParams) (bs : Bytes) (offset : Nat) : Prop where
  cr3 : bs.field offset 8 = p.cr3.toNat
  stackTop : bs.field (offset + 8) 8 = p.stackTop.toNat
  entry : bs.field (offset + 16) 8 = p.entry.toNat
  cpuIndex : bs.field (offset + 24) 8 = p.cpuIndex.toNat
  gdtLimit : bs.field (offset + 32) 2 = p.gdtLimit.toNat
  gdtBase : bs.field (offset + 34) 8 = p.gdtBase.toNat

variable (p : LaunchParams) (bs cs : Bytes) (offset : Nat)

/-- **What is decoded lies where it was decoded from.** -/
theorem liesAt_decode : (decode (bs.drop offset)).LiesAt bs offset := by
  have hword (i : Nat) :
      bs.field (offset + i) 8 = (UInt64.ofNat (Bytes.field (bs.drop offset) i 8)).toNat := by
    rw [UInt64.toNat_ofNat_of_lt' (Bytes.field_lt _ _ _), Bytes.field_drop]
  have hlimit :
      bs.field (offset + 32) 2 = (UInt16.ofNat (Bytes.field (bs.drop offset) 32 2)).toNat := by
    rw [UInt16.toNat_ofNat_of_lt' (Bytes.field_lt _ _ _), Bytes.field_drop]
  exact ⟨hword 0, hword 8, hword 16, hword 24, hlimit, hword 34⟩

variable {p bs offset}

/-- What comes after the block does not matter. -/
theorem LiesAt.of_append (hinside : offset + size ≤ bs.length) (h : p.LiesAt (bs ++ cs) offset) :
    p.LiesAt bs offset := by
  have hfield (i width : Nat) (hi : i + width ≤ size) :
      bs.field (offset + i) width = (bs ++ cs).field (offset + i) width :=
    (Bytes.field_append_of_le bs cs _ _ (by omega)).symm
  exact ⟨(hfield 0 8 (by decide)).trans h.cr3, (hfield 8 8 (by decide)).trans h.stackTop,
    (hfield 16 8 (by decide)).trans h.entry, (hfield 24 8 (by decide)).trans h.cpuIndex,
    (hfield 32 2 (by decide)).trans h.gdtLimit, (hfield 34 8 (by decide)).trans h.gdtBase⟩

end LaunchParams

/-! ## The block in an image, and after it was written -/

namespace Trampoline

variable {page : Bytes} {image : TrampolineImage} {offset : UInt64}

/-- The image takes the place of the first bytes of a page that it fits into. -/
theorem copied_eq (h : image.bytes.length ≤ page.length) :
    copied page image = image.bytes ++ page.drop image.bytes.length := by
  rw [copied, Bytes.overwrite_eq (by omega), Nat.zero_add]
  rfl

/-- **The block says what it says in the image.** -/
theorem liesAt_readParams_copied (hpage : page.length = pageSize) (hfits : Fits image) :
    (readParams (copied page image) image.paramsOffset).LiesAt image.bytes
      image.paramsOffset.toNat := by
  rw [copied_eq (hpage ▸ hfits.1)]
  exact (LaunchParams.liesAt_decode _ _).of_append _ hfits.2

/-- The page after parameters were written into it, one after the other. -/
def writeAll (page : Bytes) (offset : UInt64) (ps : List LaunchParams) : Bytes :=
  ps.foldl (fun page p => writeParams page offset p) page

/-- **Only the block changes**, however often it is written. -/
theorem sameImage_writeAll (ps : List LaunchParams)
    (h : offset.toNat + LaunchParams.size ≤ page.length) :
    SameImage offset page (writeAll page offset ps) := by
  induction ps generalizing page with
  | nil => exact .refl offset page
  | cons p ps ih =>
    have hstep : SameImage offset page (writeParams page offset p) := sameImage_writeParams h p
    exact hstep.trans (ih (by rw [hstep.length]; exact h))

/-- **A block that holds parameters**: its bytes are those of the parameters, each field is where it
is read from, and what is read are the parameters. -/
structure Holds (page : Bytes) (offset : UInt64) (p : LaunchParams) : Prop where
  /-- The bytes of the block are those of the parameters. -/
  bytes : (page.drop offset.toNat).take LaunchParams.size = p.encode
  /-- The starting processor reads each of them where it looks for it. -/
  fields : p.LiesAt page offset.toNat
  /-- Reading the block back gives the parameters. -/
  read : readParams page offset = p

/-- Written parameters are the ones that are read back. -/
theorem holds_writeParams (h : offset.toNat + LaunchParams.size ≤ page.length) (p : LaunchParams) :
    Holds (writeParams page offset p) offset p := by
  have hread : readParams (writeParams page offset p) offset = p := readParams_writeParams h p
  refine ⟨?_, ?_, hread⟩
  · rw [writeParams, Bytes.drop_overwrite (by rwa [p.length_encode]),
      List.take_left' p.length_encode]
  · have hlies := LaunchParams.liesAt_decode (writeParams page offset p) offset.toNat
    rwa [← readParams, hread] at hlies

/-- **The block holds the last parameters**, whatever was written before. -/
theorem holds_writeAll (ps : List LaunchParams) (p : LaunchParams)
    (h : offset.toNat + LaunchParams.size ≤ page.length) :
    Holds (writeAll page offset (ps ++ [p])) offset p := by
  have hbefore := (sameImage_writeAll ps h).length
  rw [writeAll, List.foldl_append]
  exact holds_writeParams (by rw [← writeAll, hbefore]; exact h) p

end Trampoline

/-! ## The page in memory -/

/-- **The page, in a memory.** Where there is one, bytes that are placed inside it are its bytes. -/
structure PageMemory (X : Surroundings) [Behaviour X] where
  /-- The bytes of the page. -/
  page : X.Hardware → Bytes
  /-- Bytes placed inside the page overwrite it there, and nowhere else. -/
  place : ∀ (offset : UInt64) (bytes : Bytes) (hw : X.Hardware),
    (page hw).length = Trampoline.pageSize → offset.toNat + bytes.length ≤ Trampoline.pageSize →
    page (Behaviour.place (Trampoline.physAddress + offset) bytes hw)
      = (page hw).overwrite offset.toNat bytes

namespace Boot

variable {X : Surroundings} [Behaviour X]

/-- **How the trampoline is installed.** -/
inductive Installs (M : PageMemory X) (k : Kernel X) : Except BringUpError UInt64 → Kernel X → Prop
  /-- The page cannot be mapped. The kernel says so and does nothing else. -/
  | unmapped (e : PagingError) {k' : Kernel X}
      (line : (log .warn s!"MP: Cannot identity map the trampoline: {e.describe}" : Boot X Unit) k
        = .ok () k') :
      Installs M k (.error .noIdentityWindow) k'
  /-- The image is refused, and nothing has changed. -/
  | refused {e : BringUpError}
      (copy : (Trampoline.copyTo (M.page k.hardware) (Behaviour.image X) : Except Stop _)
        = .ok (.error e)) :
      Installs M k (.error e) k
  /-- The bytes of the image are placed in memory, and so copied to the page. The kernel says so and
  does nothing else. -/
  | copied {k' : Kernel X} {hw : X.Hardware}
      (place : hw = Behaviour.place Trampoline.physAddress (Behaviour.image X).bytes k.hardware)
      (copy : (Trampoline.copyTo (M.page k.hardware) (Behaviour.image X) : Except Stop _)
        = .ok (.ok (M.page hw)))
      (line : (log .debug (s!"MP: Trampoline at {hex0x Trampoline.physAddress.toNat}, " ++
        s!"{(Behaviour.image X).bytes.length} bytes") : Boot X Unit) { k with hardware := hw }
        = .ok () k') :
      Installs M k (.ok (Trampoline.physAddress + (Behaviour.image X).paramsOffset)) k'

variable {M : PageMemory X} {k k' : Kernel X} {paging : KernelPaging X}

/-- Whether memory may be identity mapped is only asked. -/
theorem identityMap_eq (paging : KernelPaging X) (start length : UInt64) (k : Kernel X) :
    ∃ r, (Paging.identityMap paging start length : Boot X (Except PagingError Unit)) k = .ok r k := by
  cases paging with
  | direct d => exact ⟨_, rfl⟩
  | registered c => exact ⟨_, rfl⟩

/-- **The kernel copies the image as it is copied to a page.** -/
theorem installTrampoline_installs (hpage : (M.page k.hardware).length = Trampoline.pageSize)
    (hend : (Behaviour.image X).paramsOffset.toNat + LaunchParams.size < UInt64.size)
    {r : Except BringUpError UInt64} (hrun : installTrampoline paging k = .ok r k') :
    Installs M k r k' := by
  have hrefused (h : ¬Trampoline.Fits (Behaviour.image X)) :=
    (Trampoline.copyTo_eq_error_iff (M.page k.hardware) hend).mpr ⟨h, rfl⟩
  unfold installTrampoline at hrun
  -- the size is checked before the page is mapped, and the place of the block after it
  by_cases hlarge : Trampoline.pageSize < (Behaviour.image X).bytes.length
  · rw [Trampoline.checkImage, if_pos hlarge] at hrun
    obtain ⟨rfl, rfl⟩ := pure_eq_ok.mp hrun
    exact .refused (hrefused fun h => Nat.not_lt_of_le h.1 hlarge)
  rw [Trampoline.checkImage, if_neg hlarge] at hrun
  dsimp only at hrun
  obtain ⟨mapped, hmapped⟩ := identityMap_eq paging Trampoline.physAddress
    (UInt64.ofNat Trampoline.pageSize) k
  rw [bind_of_ok hmapped] at hrun
  cases mapped with
  | error e =>
    obtain ⟨_, k₁, hline, hreturn⟩ := bind_eq_ok.mp hrun
    obtain ⟨rfl, rfl⟩ := pure_eq_ok.mp hreturn
    exact .unmapped e hline
  | ok _ =>
    dsimp only at hrun
    rw [Trampoline.check_eq hend, pure_bind] at hrun
    by_cases hfits : Trampoline.Fits (Behaviour.image X)
    · rw [if_pos hfits] at hrun
      obtain ⟨_, k₁, hplace, hrest⟩ := bind_eq_ok.mp hrun
      obtain ⟨_, k₂, hline, hreturn⟩ := bind_eq_ok.mp hrest
      obtain ⟨rfl, rfl⟩ := pure_eq_ok.mp hreturn
      have hinside : (0 : UInt64).toNat + (Behaviour.image X).bytes.length
          ≤ Trampoline.pageSize := by
        rw [UInt64.toNat_zero, Nat.zero_add]
        exact hfits.1
      have hplaced := M.place 0 (Behaviour.image X).bytes k.hardware hpage hinside
      rw [UInt64.add_zero] at hplaced
      cases hplace
      exact .copied rfl (by rw [Trampoline.copyTo_eq _ hend, if_pos hfits, hplaced]; rfl) hline
    · rw [if_neg hfits] at hrun
      obtain ⟨rfl, rfl⟩ := pure_eq_ok.mp hrun
      exact .refused (hrefused hfits)

end Boot

/-! ## The page, from the copy on -/

/-- **A page and an image that is offered to it.** -/
structure Trampoline.Hosts (page : Bytes) (image : TrampolineImage) : Prop where
  /-- The image is refused exactly if it does not fit, and for its length. -/
  refused_iff : ∀ e, (copyTo page image : Except Stop _) = .ok (.error e)
    ↔ ¬Fits image ∧ e = .trampolineTooLarge image.bytes.length
  /-- Otherwise it takes the place of the first bytes of the page. -/
  accepted : Fits image → (copyTo page image : Except Stop _) = .ok (.ok (copied page image))
    ∧ copied page image = image.bytes ++ page.drop image.bytes.length
  /-- At first the block says what it says in the image. -/
  initial : Fits image → (readParams (copied page image) image.paramsOffset).LiesAt
    image.bytes image.paramsOffset.toNat
  /-- After any number of writes, the rest of the page is as it was copied. -/
  framed : Fits image → ∀ ps, SameImage image.paramsOffset (copied page image)
    (writeAll (copied page image) image.paramsOffset ps)
  /-- The block holds the last parameters. -/
  last : Fits image → ∀ ps p,
    Holds (writeAll (copied page image) image.paramsOffset (ps ++ [p]))
      image.paramsOffset p
  /-- This is what the kernel does when the page is in its memory and the image is its own. Where the
  image is refused, the kernel and its hardware stay as they are. -/
  kernel : ∀ {X : Surroundings} [Behaviour X] (M : PageMemory X) (paging : KernelPaging X)
    (k : Kernel X), Behaviour.image X = image → M.page k.hardware = page →
    ∀ r k', Boot.installTrampoline paging k = .ok r k' → Boot.Installs M k r k'
  /-- Parameters that are placed in memory at the address of the block are written into the block. -/
  placed : Fits image → ∀ {X : Surroundings} [Behaviour X] (M : PageMemory X) (hw : X.Hardware) p,
    (M.page hw).length = pageSize →
    M.page (Behaviour.place (physAddress + image.paramsOffset) p.encode hw)
      = writeParams (M.page hw) image.paramsOffset p

/-- **Every page hosts every image**, as long as the end of the image's block has an address: as a
whole if the image fits, and not at all if it does not. -/
theorem Trampoline.hosts (page : Bytes) (image : TrampolineImage)
    (hpage : page.length = pageSize)
    (hend : image.paramsOffset.toNat + LaunchParams.size < UInt64.size) :
    Hosts page image := by
  have hinside (hfits : Fits image) :
      image.paramsOffset.toNat + LaunchParams.size ≤ (copied page image).length := by
    rw [copied_eq (hpage ▸ hfits.1), List.length_append]
    exact Nat.le_add_right_of_le hfits.2
  refine {
    refused_iff := fun e => copyTo_eq_error_iff page hend
    accepted := fun hfits => ⟨by rw [copyTo_eq page hend, if_pos hfits], copied_eq (hpage ▸ hfits.1)⟩
    initial := liesAt_readParams_copied hpage
    framed := fun hfits ps => sameImage_writeAll ps (hinside hfits)
    last := fun hfits ps p => holds_writeAll ps p (hinside hfits)
    kernel := ?_
    placed := fun hfits X _ M hw p hlength => M.place _ _ hw hlength ?_ }
  · rintro X _ M paging k rfl rfl r k' hrun
    exact Boot.installTrampoline_installs hpage hend hrun
  · rw [p.length_encode]
    exact Nat.le_trans hfits.2 hfits.1

/-! ## The page of a board -/

/-- Bytes are written one after the other. -/
theorem Bytes.overwrite_cons {l bs : Bytes} {offset : Nat} (b : UInt8)
    (h : offset + (b :: bs).length ≤ l.length) :
    overwrite (l.set offset b) (offset + 1) bs = l.overwrite offset (b :: bs) := by
  rw [List.length_cons] at h
  have hlength : (l.take offset).length = offset := List.length_take_of_le (by omega)
  rw [overwrite_eq (by rw [List.length_set]; omega),
    overwrite_eq (by rw [List.length_cons]; omega), List.drop_set_of_lt (by omega),
    List.set_eq_take_append_cons_drop, if_pos (by omega), List.take_append, hlength,
    List.take_of_length_le (by omega), Nat.add_sub_cancel_left, List.length_cons,
    Nat.add_right_comm offset 1]
  simp only [List.take_succ_cons, List.take_zero, List.append_assoc, List.cons_append,
    List.nil_append, Nat.add_assoc]

namespace Sim

/-- Bytes that are written in a region lie in it. -/
theorem Region.toList_write (r : Region) {offset : Nat} {bs : Bytes}
    (h : offset + bs.length ≤ r.bytes.size) :
    (r.write offset bs).bytes.toList = Bytes.overwrite r.bytes.toList offset bs := by
  induction bs generalizing r offset with
  | nil =>
    rw [Bytes.overwrite_eq (by rwa [Array.length_toList])]
    exact (List.take_append_drop offset r.bytes.toList).symm
  | cons b bs ih =>
    -- the region is written byte by byte, so the induction moves the offset on by one
    have hrest : offset + 1 + bs.length ≤ (r.bytes.setIfInBounds offset b).size := by
      rw [Array.size_setIfInBounds]
      rw [List.length_cons] at h
      omega
    rw [write, ih ⟨r.phys, r.bytes.setIfInBounds offset b⟩ hrest, Array.toList_setIfInBounds,
      Bytes.overwrite_cons b (by rwa [Array.length_toList])]

/-- Writing into a region does not move it. -/
theorem Region.phys_write (r : Region) (offset : Nat) (bs : Bytes) :
    (r.write offset bs).phys = r.phys := by
  induction bs generalizing r offset with
  | nil => rfl
  | cons b bs ih => exact ih ⟨r.phys, r.bytes.setIfInBounds offset b⟩ _

/-- **The page of a board.** -/
def boardPage : PageMemory Board.surroundings where
  page b := if b.page.phys = Trampoline.physAddress then b.page.bytes.toList else []
  place offset bytes b hpage hinside := by
    have hphys : b.page.phys = Trampoline.physAddress := by
      refine Decidable.byContradiction fun hother => ?_
      rw [if_neg hother] at hpage
      exact nomatch hpage
    rw [if_pos hphys, Array.length_toList] at hpage
    have hsum : (Trampoline.physAddress + offset).toNat
        = Trampoline.physAddress.toNat + offset.toNat :=
      Trampoline.toNat_physAddress_add (by omega)
    have hholds : b.page.holds (Trampoline.physAddress + offset) bytes.length = true := by
      rw [Region.holds, Bool.and_eq_true, decide_eq_true_iff, decide_eq_true_iff, hphys,
        UInt64.le_iff_toNat_le, hsum, hpage]
      omega
    have hplaced : (b.place (Trampoline.physAddress + offset) bytes).page
        = b.page.write offset.toNat bytes := by
      show Board.placeIn _ bytes b.page = _
      rw [Board.placeIn, if_pos hholds, hphys, UInt64.add_comm, UInt64.add_sub_cancel]
    show (if (b.place _ bytes).page.phys = _ then (b.place _ bytes).page.bytes.toList else []) = _
    rw [hplaced, Region.phys_write, if_pos hphys, if_pos hphys, Region.toList_write _ (by omega)]

/-- The page of a fresh board has the right length. -/
theorem length_boardPage : (boardPage.page {}).length = Trampoline.pageSize :=
  Array.length_toList.trans Array.size_replicate

/-- **On a fresh board** the image fits. The block in it is full of its filling at first, then the
processor at position 1 is told its stack, and then the one at position 2. -/
theorem hosts_freshBoard :
    let image := Behaviour.image Board.surroundings
    let installed := Trampoline.copied (boardPage.page {}) image
    Trampoline.Hosts (boardPage.page {}) image ∧ Trampoline.Fits image
      ∧ (Trampoline.readParams installed 48).LiesAt (List.replicate 244 0x90) 48
      ∧ (Trampoline.readParams (Trampoline.writeAll installed 48
          [{ stackTop := 0x204000, cpuIndex := 1 }, { stackTop := 0x208000, cpuIndex := 2 }])
          48).cpuIndex = 2 := by
  have hlength : (Behaviour.image Board.surroundings).bytes.length = 244 := List.length_replicate
  have hfits : Trampoline.Fits (Behaviour.image Board.surroundings) := by
    rw [Trampoline.Fits, hlength]
    decide
  have hhosts := Trampoline.hosts (boardPage.page {}) (Behaviour.image Board.surroundings)
    length_boardPage (by decide)
  have hlast := hhosts.last hfits [{ stackTop := 0x204000, cpuIndex := 1 }]
    { stackTop := 0x208000, cpuIndex := 2 }
  exact ⟨hhosts, hfits, hhosts.initial hfits, congrArg LaunchParams.cpuIndex hlast.read⟩

end Sim

end Interrupts
