import Interrupts.Bytes

/-!
# Fields of packed records

A field is read out of the middle of a record. What it gives depends on the bytes of the field only:
what comes before can be dropped with its length, what comes after does not matter, a field that
was written is read back, and one that was read can be written again.
-/

namespace Interrupts.Bytes

variable (bs cs : Bytes) (offset width : Nat)

/-- A field behind other bytes. -/
theorem field_append_of_length_le (h : bs.length ≤ offset) :
    (bs ++ cs).field offset width = cs.field (offset - bs.length) width := by
  unfold field
  rw [List.drop_append, List.drop_eq_nil_of_le h, List.nil_append]

@[simp] theorem field_cons_succ (b : UInt8) :
    field (b :: bs) (offset + 1) width = bs.field offset width := rfl

@[simp] theorem field_cons_zero_one (b : UInt8) : field (b :: bs) 0 1 = b.toNat := rfl

/-- A field of a record inside another one. -/
theorem field_drop (n : Nat) : field (bs.drop n) offset width = bs.field (n + offset) width := by
  unfold field
  rw [List.drop_drop]

/-- A field inside the first bytes of a record. -/
theorem field_take {n : Nat} (h : offset + width ≤ n) :
    field (bs.take n) offset width = bs.field offset width := by
  unfold field
  rw [List.drop_take, List.take_take, Nat.min_eq_left (by omega)]

/-- A field in front of other bytes. -/
theorem field_append_of_le (h : offset + width ≤ bs.length) :
    (bs ++ cs).field offset width = bs.field offset width := by
  rw [← field_take (bs ++ cs) offset width h, List.take_left]

/-- A field that was written is read back, modulo its range. -/
theorem field_encodeLE_append (n : Nat) :
    field (encodeLE width n ++ cs) 0 width = n % Nat.pow 256 width := by
  unfold field
  rw [List.drop_zero, List.take_left' (length_encodeLE width n)]
  exact decodeLE_encodeLE width n

/-- A field of so many bytes holds a number of so many digits in base 256. -/
theorem decodeLE_lt : decodeLE bs < Nat.pow 256 bs.length := by
  induction bs with
  | nil => exact Nat.one_pos
  | cons b bs ih =>
    have hb : b.toNat < 256 := b.toNat_lt
    have hpow : Nat.pow 256 (bs.length + 1) = 256 * Nat.pow 256 bs.length := Nat.mul_comm _ _
    rw [decodeLE, List.length_cons, hpow]
    omega

/-- A field is a number in its range. -/
theorem field_lt : bs.field offset width < Nat.pow 256 width :=
  Nat.lt_of_lt_of_le (decodeLE_lt _)
    (Nat.pow_le_pow_right (by decide) (List.length_take_le width _))

/-- A string that was read is written again. -/
theorem encodeLE_decodeLE : encodeLE bs.length (decodeLE bs) = bs := by
  induction bs with
  | nil => rfl
  | cons b bs ih =>
    have hb : b.toNat < 256 := b.toNat_lt
    have hlow : UInt8.ofNat (b.toNat + 256 * decodeLE bs) = b := by
      refine UInt8.toNat_inj.mp ?_
      rw [UInt8.toNat_ofNat']
      omega
    have hhigh : (b.toNat + 256 * decodeLE bs) / 256 = decodeLE bs := by omega
    rw [List.length_cons, decodeLE, encodeLE, hlow, hhigh, ih]

/-- A field that was read is written again. -/
theorem encodeLE_field (h : offset + width ≤ bs.length) :
    encodeLE width (bs.field offset width) = (bs.drop offset).take width := by
  have hlength : ((bs.drop offset).take width).length = width := by
    rw [List.length_take, List.length_drop]
    omega
  have hwritten := encodeLE_decodeLE ((bs.drop offset).take width)
  rwa [hlength] at hwritten

/-- A field of one byte. -/
theorem field_one {b : UInt8} (h : bs[offset]? = some b) : bs.field offset 1 = b.toNat := by
  obtain ⟨hlt, rfl⟩ := List.getElem?_eq_some_iff.mp h
  unfold field
  rw [List.drop_eq_getElem_cons hlt]
  rfl

end Interrupts.Bytes
