import Interrupts.Proofs.Fields
import Interrupts.Proofs.Gates.Entry

/-!
# Gates in memory

A gate lies in memory as the sixteen bytes of its entry. Every gate can be written and read back:
the target from its three places, the privilege, the kind and the present bit from the byte they
share. Conversely any sixteen bytes with the type bits of a gate are those of one gate, up to the
bits that are reserved. These are not part of what an entry means, and writing the gate again clears
them.
-/

namespace Interrupts

/-- **The entry of a gate**: it is made for the current stack and then given its own. -/
def Gate.entry (g : Gate) : GateEntry :=
  (GateEntry.new g.target g.selector g.kind g.privilege g.present).withIst g.ist

namespace GateEntry

/-! ## Reserved bits -/

/-- **The bits of an entry that mean nothing**, by the position of their byte: the stack index has
three bits, bit 4 of the attributes is none of theirs, and the last four bytes are not used. -/
def reservedBits : Nat → UInt8
  | 4 => 0xf8
  | 5 => 0x10
  | 12 | 13 | 14 | 15 => 0xff
  | _ => 0

/-- The bytes of an entry without their reserved bits. -/
def clearReserved (bs : Bytes) : Bytes :=
  bs.mapIdx fun i b => b &&& ~~~reservedBits i

/-- No reserved bit is set. -/
def ReservedClear (bs : Bytes) : Prop :=
  ∀ i b, bs[i]? = some b → b &&& reservedBits i = 0

/-- Clearing bits changes nothing when none of them is set. -/
theorem and_not_eq_self_iff (b m : UInt8) : b &&& ~~~m = b ↔ b &&& m = 0 := by
  constructor
  · intro h
    rw [← h, UInt8.and_assoc, UInt8.not_and_self, UInt8.and_zero]
  · intro h
    have hbits := congrArg UInt8.toBitVec h
    apply UInt8.eq_of_toBitVec_eq
    ext i hi
    have hbit := congrArg (fun v : BitVec 8 => v[i]) hbits
    simp only [UInt8.toBitVec_and, BitVec.getElem_and, UInt8.toBitVec_ofNat, BitVec.getElem_zero,
      UInt8.toBitVec_not, BitVec.getElem_not] at hbit ⊢
    grind

/-- **Clearing leaves the bytes as they are** only if there is nothing to clear. -/
theorem clearReserved_eq_self_iff (bs : Bytes) : clearReserved bs = bs ↔ ReservedClear bs := by
  unfold clearReserved ReservedClear
  rw [List.ext_getElem?_iff]
  refine forall_congr' fun i => ?_
  rw [List.getElem?_mapIdx]
  cases hb : bs[i]? with
  | none => simp
  | some b => simpa using and_not_eq_self_iff b (reservedBits i)

/-! ## The bytes of an entry -/

@[simp] theorem length_toBytes (e : GateEntry) : e.toBytes.length = 16 := by
  simp [toBytes]

/-- **An entry that was written is read back.** -/
theorem ofBytes_toBytes (e : GateEntry) : ofBytes e.toBytes = e := by
  have hlast : UInt32.ofNat ((Bytes.encodeLE 4 e.reserved.toNat).field 0 4) = e.reserved := by
    have hfield := Bytes.field_encodeLE_append [] 4 e.reserved.toNat
    rw [List.append_nil] at hfield
    rw [hfield]
    simp
  simp [ofBytes, toBytes, Bytes.field_append_of_length_le, Bytes.field_encodeLE_append, hlast]

/-- **Any sixteen bytes that were read are written again.** -/
theorem toBytes_ofBytes {bs : Bytes} (h : bs.length = 16) : (ofBytes bs).toBytes = bs := by
  have hwritten {offset width : Nat} (hin : offset + width ≤ 16) :
      Bytes.encodeLE width (bs.field offset width) = (bs.drop offset).take width :=
    Bytes.encodeLE_field bs offset width (h ▸ hin)
  have hword (offset : Nat) : (UInt16.ofNat (bs.field offset 2)).toNat = bs.field offset 2 :=
    UInt16.toNat_ofNat_of_lt' (bs.field_lt offset 2)
  have hlong (offset : Nat) : (UInt32.ofNat (bs.field offset 4)).toNat = bs.field offset 4 :=
    UInt32.toNat_ofNat_of_lt' (bs.field_lt offset 4)
  have hpair : [UInt8.ofNat (bs.field 4 1), UInt8.ofNat (bs.field 5 1)] = (bs.drop 4).take 2 := by
    rw [List.take_add (i := 1) (j := 1), List.drop_drop, ← hwritten (by decide),
      ← hwritten (by decide)]
    rfl
  -- The pieces of the entry are cut out of the bytes in order, so written one after the other they
  -- are the bytes again.
  calc (ofBytes bs).toBytes
      = bs.take 2 ++ (bs.drop 2).take 2 ++ (bs.drop 4).take 2 ++ (bs.drop 6).take 2
          ++ (bs.drop 8).take 4 ++ (bs.drop 12).take 4 := by
        unfold toBytes ofBytes
        dsimp only
        rw [hword, hword, hword, hlong, hlong, hpair, hwritten (by decide), hwritten (by decide),
          hwritten (by decide), hwritten (by decide), hwritten (by decide), List.drop_zero]
    _ = bs.take 16 := by
        rw [← List.take_add, ← List.take_add, ← List.take_add, ← List.take_add, ← List.take_add]
    _ = bs := List.take_of_length_le (Nat.le_of_eq h)

/-! ## The gate of an entry -/

/-- The pieces of the target lie apart. -/
theorem pieces_target (e : GateEntry) : e.target.toUInt16 = e.offsetLow
    ∧ (e.target >>> 16).toUInt16 = e.offsetMid ∧ (e.target >>> 32).toUInt32 = e.offsetHigh := by
  unfold GateEntry.target
  refine ⟨UInt16.eq_of_toBitVec_eq ?_, UInt16.eq_of_toBitVec_eq ?_, UInt32.eq_of_toBitVec_eq ?_⟩
  all_goals
    ext i hi
    simp only [UInt64.toBitVec_or, UInt16.toBitVec_toUInt64, UInt64.toBitVec_toUInt16,
      UInt64.toBitVec_shiftLeft, UInt64.toBitVec_shiftRight, UInt64.toBitVec_ofNat,
      BitVec.ofNat_eq_ofNat, BitVec.reduceMod, BitVec.ushiftRight_eq', BitVec.toNat_ofNat,
      Nat.reducePow, Nat.reduceMod, BitVec.shiftLeft_eq', UInt32.toBitVec_toUInt64,
      UInt64.toBitVec_toUInt32, BitVec.getElem_setWidth, BitVec.getLsbD_or, BitVec.getLsbD_setWidth,
      BitVec.getLsbD_shiftLeft, BitVec.getLsbD_ushiftRight]
    grind

/-- The attributes of a gate are put together again, but for their reserved bit. -/
theorem attributes_of_kind {a : UInt8} {kind : GateKind} (h : GateKind.ofBits? a = some kind) :
    kind.bits ||| (if a &&& 0x80 != 0 then (0x80 : UInt8) else 0)
      ||| ((Ring.ofBits (a >>> 5)).bits <<< 5) = a &&& 0xef := by
  have hall : ∀ n < 256, GateKind.ofBits? (UInt8.ofNat n) = some kind →
      kind.bits ||| (if UInt8.ofNat n &&& 0x80 != 0 then (0x80 : UInt8) else 0)
        ||| ((Ring.ofBits (UInt8.ofNat n >>> 5)).bits <<< 5) = UInt8.ofNat n &&& 0xef := by
    cases kind <;> decide +kernel
  have ha := hall a.toNat a.toNat_lt
  rw [UInt8.ofNat_toNat] at ha
  exact ha h

/-- The entry without its reserved bits. -/
def cleared (e : GateEntry) : GateEntry :=
  { e with ist := e.ist &&& 7, attributes := e.attributes &&& 0xef, reserved := 0 }

/-- **An entry is that of its gate**, but for the reserved bits. -/
theorem entry_of_decode {e : GateEntry} {g : Gate} (h : e.decode = some g) :
    g.entry = e.cleared := by
  obtain ⟨kind, hkind, rfl⟩ := Option.map_eq_some_iff.mp h
  obtain ⟨hlow, hmid, hhigh⟩ := pieces_target e
  unfold Gate.entry new withIst cleared isPresent istIndex
  dsimp only
  rw [hlow, hmid, hhigh, attributes_of_kind hkind, UInt8.and_assoc]
  rfl

/-- Clearing the reserved bits of an entry clears them in its bytes. -/
theorem toBytes_cleared (e : GateEntry) : e.cleared.toBytes = clearReserved e.toBytes := by
  have hist : ~~~(0xf8 : UInt8) = 7 := rfl
  have hattributes : ~~~(0x10 : UInt8) = 0xef := rfl
  have hlast (b : UInt8) : b &&& ~~~(0xff : UInt8) = 0 := UInt8.and_zero
  simp [clearReserved, toBytes, Bytes.encodeLE, cleared, reservedBits, hist, hattributes, hlast]

/-- The type bits decide whether there is a gate. -/
theorem isSome_decode (e : GateEntry) : e.decode.isSome = true
    ↔ e.attributes &&& 0xf = 0xe ∨ e.attributes &&& 0xf = 0xf := by
  unfold decode GateKind.ofBits?
  split
  · simp [*]
  · split <;> simp [*]

/-- The sixth byte holds the attributes. -/
theorem attributes_ofBytes {bs : Bytes} {a : UInt8} (h : bs[5]? = some a) :
    (ofBytes bs).attributes = a := by
  unfold ofBytes
  dsimp only
  rw [Bytes.field_one bs 5 h, UInt8.ofNat_toNat]

/-! ## Both ways -/

/-- **Gates and their bytes.** Every gate with one of the eight stacks is read back from the sixteen
bytes it was written to. And sixteen bytes are those of a gate exactly if the type bits are `0xe` or
`0xf`; writing this gate gives the bytes again, but for their reserved bits, which are clear. -/
theorem gates_and_bytes :
    (∀ g : Gate, g.ist ≤ 7 →
      g.entry.toBytes.length = 16 ∧ (ofBytes g.entry.toBytes).decode = some g)
      ∧ ∀ bs : Bytes, bs.length = 16 →
        ((ofBytes bs).decode.isSome = true
            ↔ ∃ a, bs[5]? = some a ∧ (a &&& 0xf = 0xe ∨ a &&& 0xf = 0xf))
          ∧ ∀ g, (ofBytes bs).decode = some g → g.ist ≤ 7
            ∧ g.entry.toBytes = clearReserved bs
            ∧ (g.entry.toBytes = bs ↔ ReservedClear bs) := by
  refine ⟨fun g hist => ⟨g.entry.length_toBytes, ?_⟩, fun bs hlength => ⟨?_, fun g hg => ?_⟩⟩
  · rw [ofBytes_toBytes, Gate.entry, decode_withIst _ hist, decode_new]
    rfl
  · obtain ⟨a, ha⟩ : ∃ a, bs[5]? = some a := ⟨_, List.getElem?_eq_getElem (by omega)⟩
    rw [isSome_decode, attributes_ofBytes ha]
    exact ⟨fun h => ⟨a, ha, h⟩, fun ⟨b, hb, h⟩ => Option.some.inj (ha.symm.trans hb) ▸ h⟩
  · have hbytes : g.entry.toBytes = clearReserved bs := by
      rw [entry_of_decode hg, toBytes_cleared, toBytes_ofBytes hlength]
    refine ⟨?_, hbytes, ?_⟩
    · obtain ⟨kind, -, rfl⟩ := Option.map_eq_some_iff.mp hg
      exact UInt8.and_le_right
    · rw [hbytes, clearReserved_eq_self_iff]

/-- A trap gate that programs may enter, on stack 5, is read back; and from bytes in which every
reserved bit is set, this gate is read, too, but not written. -/
theorem gates_and_bytes_reserved :
    let g : Gate :=
      { target := 0xffffffff80102030, selector := .kernelCode, kind := .trap, privilege := .ring3,
        present := true, ist := 5 }
    let bs : Bytes :=
      [0x30, 0x20, 0x08, 0x00, 0xfd, 0xff, 0x10, 0x80, 0xff, 0xff, 0xff, 0xff, 0xff, 0xff, 0xff,
        0xff]
    (g.ist ≤ 7 ∧ bs.length = 16)
      ∧ (ofBytes g.entry.toBytes).decode = some g
      ∧ (ofBytes bs).decode = some g ∧ g.entry.toBytes = clearReserved bs
      ∧ g.entry.toBytes ≠ bs := by
  intro g bs
  have hread : (ofBytes bs).decode = some g := by decide +kernel
  have hset : ¬ReservedClear bs := fun h => absurd (h 5 0xff rfl) (by decide)
  obtain ⟨-, hbytes, hsame⟩ := (gates_and_bytes.2 bs rfl).2 g hread
  exact ⟨⟨by decide, rfl⟩, (gates_and_bytes.1 g (by decide)).2, hread, hbytes,
    fun h => hset (hsame.mp h)⟩

end GateEntry

end Interrupts
