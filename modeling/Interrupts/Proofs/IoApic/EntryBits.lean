import Mathlib.Data.Nat.Bitwise
import Interrupts.IoApic.Driver

/-!
# The bits of a redirection entry

An entry is 64 bits, and everything that is done to one is done to some of them. `Redirection.bit`
looks at a single bit; each operation on entries comes with the bits of its result, and entries with
the same bits are equal.
-/

namespace Interrupts

/-! ## Changing one bit of a word -/

/-- The bits of a number in which one bit is set. -/
theorem testBit_or_two_pow (n k i : Nat) :
    (n ||| 2 ^ k).testBit i = if i = k then true else n.testBit i := by
  rw [Nat.testBit_or, Nat.testBit_two_pow]
  by_cases hi : i = k
  · rw [if_pos hi, decide_eq_true hi.symm, Bool.or_true]
  · rw [if_neg hi, decide_eq_false (Ne.symm hi), Bool.or_false]

/-- The complement has the width of the word. -/
theorem testBit_and_not_two_pow {width k : Nat} (hk : k < width) (n i : Nat) :
    (n &&& (2 ^ width - 1 - 2 ^ k)).testBit i
      = if i = k then false else (n.testBit i && decide (i < width)) := by
  have hlt : 2 ^ k < 2 ^ width := Nat.pow_lt_pow_right Nat.one_lt_two hk
  have hcomplement : 2 ^ width - 1 - 2 ^ k = 2 ^ width - (2 ^ k + 1) := by
    rw [Nat.sub_sub, Nat.add_comm]
  rw [Nat.testBit_and, hcomplement, Nat.testBit_two_pow_sub_succ hlt, Nat.testBit_two_pow]
  by_cases hi : i = k
  · rw [if_pos hi, decide_eq_true hi.symm, Bool.not_true, Bool.and_false, Bool.and_false]
  · rw [if_neg hi, decide_eq_false (Ne.symm hi), Bool.not_false, Bool.and_true]

namespace Redirection

/-! ## Single bits -/

/-- A bit of the entry, counted from the lowest. -/
def bit (e : Redirection) (i : Nat) : Bool :=
  e.raw.toNat.testBit i

variable {e e' : Redirection} {i k : Nat}

/-- There are 64 bits. -/
theorem bit_eq_false (h : 64 ≤ i) : e.bit i = false :=
  Nat.testBit_lt_two_pow
    (Nat.lt_of_lt_of_le e.raw.toNat_lt (Nat.pow_le_pow_right Nat.two_pos h))

theorem bit_and_lt : (e.bit i && decide (i < 64)) = e.bit i := by
  by_cases hi : i < 64
  · rw [decide_eq_true hi, Bool.and_true]
  · rw [bit_eq_false (Nat.le_of_not_lt hi), Bool.false_and]

/-- **The bits make the entry.** -/
theorem eq_of_bit (h : ∀ i, i < 64 → e.bit i = e'.bit i) : e = e' := by
  have hraw : e.raw = e'.raw := by
    refine UInt64.toNat_inj.mp (Nat.eq_of_testBit_eq fun i => ?_)
    by_cases hi : i < 64
    · exact h i hi
    · exact (bit_eq_false (Nat.le_of_not_lt hi)).trans (bit_eq_false (Nat.le_of_not_lt hi)).symm
  cases e
  cases e'
  exact congrArg Redirection.mk hraw

/-! ## Halves -/

/-- A register has 32 bits. -/
theorem testBit_word (w : UInt32) (h : 32 ≤ i) : w.toNat.testBit i = false :=
  Nat.testBit_lt_two_pow (Nat.lt_of_lt_of_le w.toNat_lt (Nat.pow_le_pow_right Nat.two_pos h))

/-- The lower half of an entry has the entry's lower bits. -/
theorem testBit_low (e : Redirection) (i : Nat) :
    e.low.toNat.testBit i = (decide (i < 32) && e.bit i) := by
  rw [low, UInt64.toNat_toUInt32, Nat.testBit_mod_two_pow]
  rfl

/-- The upper half of an entry has the entry's upper bits. -/
theorem testBit_high (e : Redirection) (i : Nat) :
    e.high.toNat.testBit i = (decide (i < 32) && e.bit (32 + i)) := by
  rw [high, UInt64.toNat_toUInt32, UInt64.toNat_shiftRight, Nat.testBit_mod_two_pow,
    show (32 : UInt64).toNat % 64 = 32 from rfl, Nat.testBit_shiftRight]
  rfl

/-- The high register has the upper bits only. -/
theorem high_congr (h : ∀ i, 32 ≤ i → e.bit i = e'.bit i) : e.high = e'.high := by
  refine UInt32.toNat_inj.mp (Nat.eq_of_testBit_eq fun i => ?_)
  rw [testBit_high, testBit_high, h (32 + i) (Nat.le_add_right 32 i)]

/-- An entry has the bits of its halves. -/
theorem bit_ofHalves (low high : UInt32) (i : Nat) :
    (ofHalves low high).bit i
      = if i < 32 then low.toNat.testBit i else high.toNat.testBit (i - 32) := by
  have hhigh : high.toNat < 2 ^ 32 := high.toNat_lt
  have hshift : (high.toUInt64 <<< 32).toNat = high.toNat <<< 32 := by
    rw [UInt64.toNat_shiftLeft, UInt32.toNat_toUInt64, show (32 : UInt64).toNat % 64 = 32 from rfl,
      Nat.shiftLeft_eq, Nat.mod_eq_of_lt (by omega)]
  rw [bit, ofHalves, UInt64.toNat_or, hshift, UInt32.toNat_toUInt64, Nat.testBit_or,
    Nat.testBit_shiftLeft]
  by_cases hi : i < 32
  · rw [if_pos hi, decide_eq_false (Nat.not_le_of_lt hi), Bool.false_and, Bool.false_or]
  · have hle : 32 ≤ i := Nat.le_of_not_lt hi
    rw [if_neg hi, decide_eq_true hle, Bool.true_and, testBit_word low hle, Bool.or_false]

/-- **The two registers hold the entry.** -/
@[simp] theorem ofHalves_low_high (e : Redirection) : ofHalves e.low e.high = e := by
  refine eq_of_bit fun i hi => ?_
  rw [bit_ofHalves, testBit_low, testBit_high]
  by_cases hlow : i < 32
  · rw [if_pos hlow, decide_eq_true hlow, Bool.true_and]
  · rw [if_neg hlow, decide_eq_true (by omega), Bool.true_and, Nat.add_sub_cancel' (by omega)]

@[simp] theorem low_ofHalves (low high : UInt32) : (ofHalves low high).low = low := by
  refine UInt32.toNat_inj.mp (Nat.eq_of_testBit_eq fun i => ?_)
  rw [testBit_low, bit_ofHalves]
  by_cases hi : i < 32
  · rw [if_pos hi, decide_eq_true hi, Bool.true_and]
  · rw [decide_eq_false hi, Bool.false_and]
    exact (testBit_word low (Nat.le_of_not_lt hi)).symm

@[simp] theorem high_ofHalves (low high : UInt32) : (ofHalves low high).high = high := by
  refine UInt32.toNat_inj.mp (Nat.eq_of_testBit_eq fun i => ?_)
  rw [testBit_high, bit_ofHalves, if_neg (by omega), Nat.add_sub_cancel_left]
  by_cases hi : i < 32
  · rw [decide_eq_true hi, Bool.true_and]
  · rw [decide_eq_false hi, Bool.false_and]
    exact (testBit_word high (Nat.le_of_not_lt hi)).symm

/-! ## Flags and fields -/

variable {b : UInt64}

/-- A flag is a bit. -/
theorem has_eq_bit (hb : b.toNat = 2 ^ k) : e.has b = e.bit k := by
  have hand : (e.raw &&& b).toNat = (e.raw.toNat.testBit k).toNat * 2 ^ k := by
    rw [UInt64.toNat_and, hb, Nat.and_two_pow]
  rw [has, bit, Bool.eq_iff_iff, bne_iff_ne, ne_eq, ← UInt64.toNat_inj, hand]
  cases e.raw.toNat.testBit k <;> simp

/-- **Setting or clearing a flag changes its bit only.** -/
theorem bit_withBit (hb : b.toNat = 2 ^ k) (on : Bool) :
    (e.withBit b on).bit i = if i = k then on else e.bit i := by
  have hk : 2 ^ k < 2 ^ 64 := hb ▸ b.toNat_lt
  have hk' : k < 64 := (Nat.pow_lt_pow_iff_right (by decide)).mp hk
  cases on with
  | true =>
    rw [withBit, if_pos rfl, bit, UInt64.toNat_or, hb]
    exact testBit_or_two_pow e.raw.toNat k i
  | false =>
    rw [withBit, if_neg Bool.false_ne_true, bit, UInt64.toNat_and, UInt64.toNat_not, hb,
      show UInt64.size = 2 ^ 64 from rfl, testBit_and_not_two_pow hk']
    exact if_congr Iff.rfl rfl bit_and_lt

/-- **Putting a value into a range of bits changes these only**, where `mask` is the range and
`value` the value moved into it. -/
theorem bit_replace (start width : Nat) {v : Nat} {mask value : UInt64}
    (hmask : mask.toNat = (2 ^ width - 1) <<< start) (hvalue : value.toNat = v <<< start)
    (hv : v < 2 ^ width) :
    bit ⟨(e.raw &&& ~~~mask) ||| value⟩ i
      = if start ≤ i ∧ i < start + width then v.testBit (i - start) else e.bit i := by
  have hlt : (2 ^ width - 1) <<< start < 2 ^ 64 := hmask ▸ mask.toNat_lt
  have hcomplement : (~~~mask).toNat = 2 ^ 64 - ((2 ^ width - 1) <<< start + 1) := by
    rw [UInt64.toNat_not, hmask, Nat.sub_sub, Nat.add_comm 1]
    rfl
  have habove : ¬i < start + width → v.testBit (i - start) = false := fun hi =>
    Nat.testBit_lt_two_pow (Nat.lt_of_lt_of_le hv (Nat.pow_le_pow_right Nat.two_pos (by omega)))
  have hword : (e.raw.toNat.testBit i && decide (i < 64)) = e.bit i := bit_and_lt
  rw [bit, UInt64.toNat_or, UInt64.toNat_and, hvalue, hcomplement, Nat.testBit_or, Nat.testBit_and,
    Nat.testBit_two_pow_sub_succ hlt, Nat.testBit_shiftLeft, Nat.testBit_shiftLeft,
    Nat.testBit_two_pow_sub_one]
  -- Inside the field the mask clears the old bit and the value brings the new one; outside, the
  -- value has no bit and the old one stays.
  by_cases hlow : start ≤ i
  · by_cases hhigh : i < start + width
    · rw [if_pos ⟨hlow, hhigh⟩, decide_eq_true hlow, decide_eq_true (by omega : i - start < width)]
      simp
    · rw [if_neg fun h => hhigh h.2, decide_eq_false (by omega : ¬i - start < width),
        habove hhigh, ← hword]
      simp
  · rw [if_neg fun h => hlow h.1, decide_eq_false hlow, ← hword]
    simp

/-- **Changing the delivery mode changes its three bits only.** -/
theorem bit_withDeliveryMode (d : DeliveryMode) :
    (e.withDeliveryMode d).bit i
      = if 8 ≤ i ∧ i < 11 then d.bits.toNat.testBit (i - 8) else e.bit i :=
  bit_replace 8 3 rfl (by cases d <;> rfl) (by cases d <;> decide)

/-- The bits of a vector are the lowest eight. -/
theorem testBit_vector (vector : UInt8) (h : 8 ≤ i) : vector.toNat.testBit i = false :=
  Nat.testBit_lt_two_pow (Nat.lt_of_lt_of_le vector.toNat_lt (Nat.pow_le_pow_right Nat.two_pos h))

/-- A destination is moved into the top byte whole. -/
theorem toNat_destination (apicId : UInt8) :
    (apicId.toUInt64 <<< 56).toNat = apicId.toNat <<< 56 := by
  have hlt : apicId.toNat < 2 ^ 8 := apicId.toNat_lt
  rw [UInt64.toNat_shiftLeft, UInt8.toNat_toUInt64, show (56 : UInt64).toNat % 64 = 56 from rfl,
    Nat.shiftLeft_eq, Nat.mod_eq_of_lt (by omega)]

/-- The bits of an entry that delivers a vector to a processor, and nothing else. -/
theorem bit_fixed (vector apicId : UInt8) :
    (fixed vector apicId).bit i
      = (vector.toNat.testBit i || decide (56 ≤ i) && apicId.toNat.testBit (i - 56)) := by
  rw [bit, fixed, UInt64.toNat_or, toNat_destination, UInt8.toNat_toUInt64, Nat.testBit_or,
    Nat.testBit_shiftLeft]

/-! ## Masked entries -/

/-- The mask bit is in the low half. -/
theorem isMasked_ofHalves (low high high' : UInt32) :
    (ofHalves low high).isMasked = (ofHalves low high').isMasked := by
  rw [isMasked, isMasked, has_eq_bit (k := 16) rfl, has_eq_bit (k := 16) rfl, bit_ofHalves,
    bit_ofHalves]
  rfl

@[simp] theorem isMasked_withMasked (e : Redirection) (on : Bool) :
    (e.withMasked on).isMasked = on := by
  rw [isMasked, has_eq_bit (k := 16) rfl, withMasked, bit_withBit (k := 16) rfl, if_pos rfl]

/-- Masking a pin does not touch the high half. -/
@[simp] theorem high_withMasked (e : Redirection) (on : Bool) :
    (e.withMasked on).high = e.high := by
  refine high_congr fun i hi => ?_
  rw [withMasked, bit_withBit (k := 16) rfl, if_neg (by omega)]

end Redirection

end Interrupts
