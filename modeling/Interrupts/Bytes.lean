import Interrupts.Text.Hex

/-!
# Little-endian byte strings

Every table that the interrupt hardware and the firmware share with the kernel is a packed record
of little-endian fields. `encodeLE` and `decodeLE` write and read one field of a given width, and
`field` reads one out of the middle of a record; reading back a written field gives the number
modulo the field's range. `hexDigits` and `ofHexDigits` are the text of a byte string, two digits
for each byte.
-/

namespace Interrupts

/-- Memory contents, lowest address first. -/
abbrev Bytes := List UInt8

namespace Bytes

/-- The lowest `width` bytes of `n`, least significant first. -/
def encodeLE : (width : Nat) → (n : Nat) → Bytes
  | 0, _ => []
  | width + 1, n => UInt8.ofNat n :: encodeLE width (n / 256)

/-- The number that a little-endian byte string denotes. -/
def decodeLE : Bytes → Nat
  | [] => 0
  | b :: bs => b.toNat + 256 * decodeLE bs

/-- The number in the `width` bytes at `offset`; bytes past the end are left out. -/
def field (bs : Bytes) (offset width : Nat) : Nat :=
  decodeLE ((bs.drop offset).take width)

/-- Replace the bytes from `offset` on by `new`, as far as they exist. -/
def overwrite (bs : Bytes) (offset : Nat) (new : Bytes) : Bytes :=
  bs.take offset ++ (new.take (bs.length - offset) ++ bs.drop (offset + new.length))

/-- Two hexadecimal digits for each byte. -/
def hexDigits (bs : Bytes) : String :=
  String.join (bs.map fun b => (if b < 16 then "0" else "") ++ hex b.toNat)

/-- The bytes that digits stand for, two for each; a digit that is left over is dropped. -/
def ofHexDigits : List Char → Bytes
  | high :: low :: rest => UInt8.ofNat (hexDigit high * 16 + hexDigit low) :: ofHexDigits rest
  | _ => []

@[simp] theorem length_encodeLE (width n : Nat) : (encodeLE width n).length = width := by
  induction width generalizing n with
  | zero => rfl
  | succ width ih => simp [encodeLE, ih]

/-- Reading back a written field gives the number modulo the field's range. -/
theorem decodeLE_encodeLE (width n : Nat) :
    decodeLE (encodeLE width n) = n % Nat.pow 256 width := by
  induction width generalizing n with
  | zero => simp [encodeLE, decodeLE, Nat.mod_one]
  | succ width ih =>
    have hpow : Nat.pow 256 (width + 1) = 256 * Nat.pow 256 width := Nat.mul_comm _ _
    rw [encodeLE, decodeLE, ih, UInt8.toNat_ofNat', hpow, Nat.mod_mul]

end Bytes

end Interrupts
