import Interrupts.GateTable

/-!
# What the entries of the descriptor table mean

An entry that was made for a gate decodes to this gate, whatever its target, selector, kind,
privilege and present bit, and an entry of zeros to none. Choosing an interrupt stack changes the
stack index of what an entry means, and nothing else; of an entry that is no gate it makes no gate.
-/

namespace Interrupts.GateEntry

section New

variable (target : UInt64) (selector : Selector) (kind : GateKind) (privilege : Ring)
  (present : Bool)

/-- The three pieces of the target are put together again. -/
theorem target_new : (new target selector kind privilege present).target = target := by
  unfold GateEntry.target new
  apply UInt64.eq_of_toBitVec_eq
  ext i hi
  simp only [UInt64.toBitVec_or, UInt16.toBitVec_toUInt64, UInt64.toBitVec_toUInt16,
    UInt64.toBitVec_shiftLeft, UInt64.toBitVec_shiftRight, UInt64.toBitVec_ofNat,
    BitVec.ofNat_eq_ofNat, BitVec.reduceMod, BitVec.ushiftRight_eq', BitVec.toNat_ofNat,
    Nat.reducePow, Nat.reduceMod, BitVec.shiftLeft_eq', UInt32.toBitVec_toUInt64,
    UInt64.toBitVec_toUInt32, BitVec.getElem_or, BitVec.getElem_setWidth,
    BitVec.getLsbD_setWidth, BitVec.getElem_shiftLeft, BitVec.getLsbD_ushiftRight]
  -- Every bit lies in exactly one of the pieces.
  grind

/-- The attribute byte tells the kind, the privilege and the present bit apart. -/
theorem attributes_new :
    GateKind.ofBits? (new target selector kind privilege present).attributes = some kind
      ∧ Ring.ofBits ((new target selector kind privilege present).attributes >>> 5) = privilege
      ∧ (new target selector kind privilege present).isPresent = present := by
  unfold isPresent new
  dsimp only
  cases kind <;> cases privilege <;> cases present <;> decide

/-- **The entry of a gate means this gate**, on the current stack. -/
theorem decode_new :
    (new target selector kind privilege present).decode
      = some { target, selector, kind, privilege, present, ist := 0 } := by
  obtain ⟨hkind, hprivilege, hpresent⟩ := attributes_new target selector kind privilege present
  have hstack : (new target selector kind privilege present).istIndex = 0 :=
    UInt8.zero_and
  unfold decode
  rw [hkind, hprivilege, hpresent, hstack, target_new]
  rfl

end New

/-- An entry of zeros is no gate. -/
theorem decode_zero : zero.decode = none := by
  decide

/-- An index of at most three bits is kept as it is. -/
theorem and_seven {index : UInt8} (h : index ≤ 7) : index &&& 7 = index := by
  have hall : ∀ k < 8, UInt8.ofNat k &&& 7 = UInt8.ofNat k := by decide
  have hindex := hall index.toNat (Nat.lt_succ_of_le (UInt8.le_iff_toNat_le.mp h))
  rwa [UInt8.ofNat_toNat] at hindex

/-- **Choosing a stack changes the stack** of what an entry means. -/
theorem decode_withIst (e : GateEntry) {index : UInt8} (h : index ≤ 7) :
    (e.withIst index).decode = e.decode.map fun g => { g with ist := index } := by
  have hstack : (e.withIst index).istIndex = index := by
    unfold istIndex withIst
    rw [and_seven h, and_seven h]
  unfold decode
  rw [hstack, Option.map_map]
  rfl

end Interrupts.GateEntry
