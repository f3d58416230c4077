import Interrupts.Processor.Trampoline
import Interrupts.Proofs.Fields

/-!
# The block of parameters in the trampoline page

The parameters of a processor are written over those of the one before it. What is written can be
read back, whatever was there, and no byte of the page outside the block changes.
-/

namespace Interrupts

/-! ## Writing over bytes -/

namespace Bytes

variable {bs new : Bytes} {offset : Nat} (h : offset + new.length ≤ bs.length)

include h

/-- Overwriting keeps the bytes before the place and those after the new ones. -/
theorem overwrite_eq :
    bs.overwrite offset new = bs.take offset ++ (new ++ bs.drop (offset + new.length)) := by
  have hnew : new.take (bs.length - offset) = new := List.take_of_length_le (by omega)
  rw [overwrite, hnew]

theorem length_overwrite : (bs.overwrite offset new).length = bs.length := by
  rw [overwrite_eq h, List.length_append, List.length_append, List.length_take, List.length_drop]
  omega

/-- What was written lies at its offset. -/
theorem drop_overwrite :
    (bs.overwrite offset new).drop offset = new ++ bs.drop (offset + new.length) := by
  rw [overwrite_eq h, List.drop_left' (by rw [List.length_take]; omega)]

/-- **The other bytes stay.** -/
theorem getElem?_overwrite {k : Nat} (hk : k < offset ∨ offset + new.length ≤ k) :
    (bs.overwrite offset new)[k]? = bs[k]? := by
  have htake : (bs.take offset).length = offset := by
    rw [List.length_take]
    omega
  rw [overwrite_eq h]
  rcases hk with hbefore | hafter
  · rw [List.getElem?_append_left (by omega), List.getElem?_take_of_lt hbefore]
  · rw [List.getElem?_append_right (by omega), List.getElem?_append_right (by omega),
      List.getElem?_drop, htake]
    congr 1
    omega

end Bytes

/-! ## Parameters -/

namespace LaunchParams

@[simp] theorem length_encode (p : LaunchParams) : p.encode.length = size := by
  simp [encode, size]

/-- **Parameters are read back**, whatever follows them. -/
theorem decode_encode_append (p : LaunchParams) (rest : Bytes) : decode (p.encode ++ rest) = p := by
  simp [decode, encode, List.append_assoc, Bytes.field_append_of_length_le,
    Bytes.field_encodeLE_append]

end LaunchParams

/-! ## The page -/

namespace Trampoline

variable {page : Bytes} {offset : UInt64} (h : offset.toNat + LaunchParams.size ≤ page.length)
  (p : LaunchParams)

/-- **A page differs from another in the block only.** -/
structure SameImage (offset : UInt64) (page page' : Bytes) : Prop where
  /-- The page keeps its length. -/
  length : page'.length = page.length
  /-- Every byte before the block and behind it is the same. -/
  outside : ∀ k, k < offset.toNat ∨ offset.toNat + LaunchParams.size ≤ k → page'[k]? = page[k]?

theorem SameImage.refl (offset : UInt64) (page : Bytes) : SameImage offset page page :=
  ⟨rfl, fun _ _ => rfl⟩

theorem SameImage.trans {page page' page'' : Bytes} (h : SameImage offset page page')
    (h' : SameImage offset page' page'') : SameImage offset page page'' :=
  ⟨h'.length.trans h.length, fun k hk => (h'.outside k hk).trans (h.outside k hk)⟩

include h

/-- **The parameters that were written are read.** -/
theorem readParams_writeParams : readParams (writeParams page offset p) offset = p := by
  rw [← p.length_encode] at h
  rw [readParams, writeParams, Bytes.drop_overwrite h, LaunchParams.decode_encode_append]

/-- Writing the parameters changes the block alone. -/
theorem sameImage_writeParams : SameImage offset page (writeParams page offset p) := by
  rw [← p.length_encode] at h
  refine ⟨Bytes.length_overwrite h, fun k hk => ?_⟩
  rw [← p.length_encode] at hk
  exact Bytes.getElem?_overwrite h hk

omit h

/-- The addresses of the page follow each other. -/
theorem toNat_physAddress_add (hoffset : offset.toNat ≤ pageSize) :
    (physAddress + offset).toNat = physAddress.toNat + offset.toNat := by
  rw [UInt64.toNat_add]
  exact Nat.mod_eq_of_lt (Nat.lt_of_le_of_lt (Nat.add_le_add_left hoffset _) (by decide))

/-! ## The image -/

/-- **An image fits**: into the page, and its block of parameters into it. -/
def Fits (image : TrampolineImage) : Prop :=
  image.bytes.length ≤ pageSize
    ∧ image.paramsOffset.toNat + LaunchParams.size ≤ image.bytes.length

instance (image : TrampolineImage) : Decidable (Fits image) :=
  inferInstanceAs (Decidable (_ ∧ _))

variable {image : TrampolineImage}

/-- **An image is checked** in any monad: it is refused exactly if it does not fit. -/
theorem check_eq {m : Type → Type} [Monad m] [LawfulMonad m] [MonadExceptOf Stop m]
    (hend : image.paramsOffset.toNat + LaunchParams.size < UInt64.size) :
    (check image : m _) = pure (if Fits image then .ok ()
      else .error (.trampolineTooLarge image.bytes.length)) := by
  -- where the end of the block has an address, the checked sum is the sum of the numbers
  have hsum : (image.paramsOffset + UInt64.ofNat LaunchParams.size).toNat
      = image.paramsOffset.toNat + LaunchParams.size := by
    rw [UInt64.toNat_add]
    exact Nat.mod_eq_of_lt hend
  unfold check checkImage
  by_cases hlarge : pageSize < image.bytes.length
  · rw [if_pos hlarge, if_neg fun h => Nat.not_lt_of_le h.1 hlarge]
  · have hadd : (addWord64 image.paramsOffset (UInt64.ofNat LaunchParams.size) : m UInt64)
        = pure (image.paramsOffset + UInt64.ofNat LaunchParams.size) := if_pos hend
    rw [if_neg hlarge]
    dsimp only
    rw [hadd, pure_bind, checkBlock, hsum]
    by_cases hblock : image.bytes.length < image.paramsOffset.toNat + LaunchParams.size
    · rw [if_pos hblock, if_neg fun h => Nat.not_lt_of_le h.2 hblock]
    · rw [if_neg hblock, if_pos ⟨Nat.le_of_not_lt hlarge, Nat.le_of_not_lt hblock⟩]

/-- **What becomes of an image** that is offered to a page. -/
theorem copyTo_eq (page : Bytes)
    (hend : image.paramsOffset.toNat + LaunchParams.size < UInt64.size) :
    (copyTo page image : Except Stop _) = .ok (if Fits image then .ok (copied page image)
      else .error (.trampolineTooLarge image.bytes.length)) := by
  rw [copyTo, check_eq hend, pure_bind]
  by_cases hfits : Fits image
  · rw [if_pos hfits, if_pos hfits]
    rfl
  · rw [if_neg hfits, if_neg hfits]
    rfl

/-- **When an image is refused**, and what for. -/
theorem copyTo_eq_error_iff (page : Bytes)
    (hend : image.paramsOffset.toNat + LaunchParams.size < UInt64.size) {e : BringUpError} :
    (copyTo page image : Except Stop _) = .ok (.error e)
      ↔ ¬Fits image ∧ e = .trampolineTooLarge image.bytes.length := by
  rw [copyTo_eq page hend]
  by_cases hfits : Fits image
  · rw [if_pos hfits]
    exact ⟨fun h => (nomatch h), fun h => absurd hfits h.1⟩
  · rw [if_neg hfits]
    constructor
    · rintro ⟨⟩
      exact ⟨hfits, rfl⟩
    · rintro ⟨-, rfl⟩
      rfl

/-- **When an image is copied**: it fits the page, and the block lies inside it. -/
theorem copyTo_eq_ok {installed : Bytes}
    (hcopy : (copyTo page image : Except Stop _) = .ok (.ok installed)) :
    image.paramsOffset.toNat + LaunchParams.size ≤ image.bytes.length
      ∧ image.bytes.length ≤ pageSize ∧ installed = copied page image := by
  by_cases hend : image.paramsOffset.toNat + LaunchParams.size < UInt64.size
  · rw [copyTo_eq page hend] at hcopy
    by_cases hfits : Fits image
    · rw [if_pos hfits] at hcopy
      cases hcopy
      exact ⟨hfits.2, hfits.1, rfl⟩
    · rw [if_neg hfits] at hcopy
      exact nomatch hcopy
  · -- The end of the block has no address, and whatever the check comes to is no success.
    have hadd : (addWord64 image.paramsOffset (UInt64.ofNat LaunchParams.size) : Except Stop UInt64)
        = .error (.fault .addOverflow) := if_neg hend
    unfold copyTo check at hcopy
    rw [hadd] at hcopy
    cases hlarge : checkImage image.bytes.length <;> rw [hlarge] at hcopy <;> exact nomatch hcopy

end Trampoline

end Interrupts
