import Mathlib.Data.List.Induction
import Mathlib.Tactic.IntervalCases
import Interrupts.Proofs.IoApic.EntryBits

/-!
# The fields of a redirection entry

Seven fields can be set of an entry. Each of them is a range of bits, no two ranges meet, and the
value of a field is what the number in its range means. The setters of the fields are written down
in two ways, with a shifted mask or with a flag, and both of them put the number of the new value
into the range of the field and leave the other bits alone (`bit_set`).

So an entry is known by the numbers of its fields and by the bits that are in none (`ext_number`).
What settings make of an entry follows from this: each field has the value it was set to last, or
else the one it had, in whatever order the fields were set.
-/

namespace Interrupts.Redirection

/-- **What can be set of an entry.** -/
inductive Field where
  | vector
  | deliveryMode
  | logical
  | polarity
  | trigger
  | masked
  | destination
  deriving DecidableEq

namespace Field

/-- The values of a field. -/
abbrev Value : Field → Type
  | vector => UInt8
  | deliveryMode => DeliveryMode
  | logical => Bool
  | polarity => PinPolarity
  | trigger => PinTrigger
  | masked => Bool
  | destination => UInt8

/-- Read a field. -/
def get (e : Redirection) : (f : Field) → f.Value
  | vector => e.vector
  | deliveryMode => e.deliveryMode
  | logical => e.isLogical
  | polarity => e.polarity
  | trigger => e.trigger
  | masked => e.isMasked
  | destination => e.destination

/-- Set a field. -/
def set (e : Redirection) : (f : Field) → f.Value → Redirection
  | vector, v => e.withVector v
  | deliveryMode, v => e.withDeliveryMode v
  | logical, v => e.withLogical v
  | polarity, v => e.withPolarity v
  | trigger, v => e.withTrigger v
  | masked, v => e.withMasked v
  | destination, v => e.withDestination v

/-! ## Ranges and numbers -/

/-- The lowest bit of a field. -/
def start : Field → Nat
  | vector => 0
  | deliveryMode => 8
  | logical => 11
  | polarity => 13
  | trigger => 15
  | masked => 16
  | destination => 56

/-- How many bits a field has. -/
def width : Field → Nat
  | vector => 8
  | deliveryMode => 3
  | logical => 1
  | polarity => 1
  | trigger => 1
  | masked => 1
  | destination => 8

/-- A bit is one of the field. -/
def Covers (f : Field) (i : Nat) : Prop :=
  f.start ≤ i ∧ i < f.start + f.width

instance (f : Field) (i : Nat) : Decidable (f.Covers i) :=
  inferInstanceAs (Decidable (_ ∧ _))

/-- The number that the bits of a field make. -/
def number (f : Field) (e : Redirection) : Nat :=
  e.raw.toNat / 2 ^ f.start % 2 ^ f.width

/-- The number of a value. -/
def code : (f : Field) → f.Value → Nat
  | vector, v => v.toNat
  | deliveryMode, v => v.bits.toNat
  | logical, v => v.toNat
  | polarity, PinPolarity.activeHigh => 0
  | polarity, PinPolarity.activeLow => 1
  | trigger, PinTrigger.edge => 0
  | trigger, PinTrigger.level => 1
  | masked, v => v.toNat
  | destination, v => v.toNat

/-- **What a number means in a field.** A number that is that of no delivery mode means fixed
delivery. -/
def meaning : (f : Field) → Nat → f.Value
  | vector, n => UInt8.ofNat n
  | deliveryMode, n =>
    ([.fixed, .lowestPriority, .smi, .nmi, .init, .extInt].find? fun d : DeliveryMode =>
      d.bits.toNat = n).getD .fixed
  | logical, n => decide (n = 1)
  | polarity, n => if n = 1 then .activeLow else .activeHigh
  | trigger, n => if n = 1 then .level else .edge
  | masked, n => decide (n = 1)
  | destination, n => UInt8.ofNat n

variable {f g : Field} {e e' : Redirection} {i j : Nat}

/-- **No two fields meet.** -/
theorem Covers.unique (hf : f.Covers i) (hg : g.Covers i) : f = g := by
  unfold Covers at hf hg
  cases f <;> cases g <;> first | rfl | (simp only [start, width] at hf hg; omega)

/-- The code of a value fits in its field. -/
theorem code_lt (v : f.Value) : f.code v < 2 ^ f.width := by
  cases f with
  | vector => exact UInt8.toNat_lt v
  | deliveryMode => cases v <;> decide
  | logical => cases v <;> decide
  | polarity => cases v <;> decide
  | trigger => cases v <;> decide
  | masked => cases v <;> decide
  | destination => exact UInt8.toNat_lt v

/-- Values are told by their numbers. -/
theorem meaning_code (v : f.Value) : f.meaning (f.code v) = v := by
  cases f with
  | vector => exact UInt8.ofNat_toNat
  | deliveryMode => cases v <;> rfl
  | logical => cases v <;> rfl
  | polarity => cases v <;> rfl
  | trigger => cases v <;> rfl
  | masked => cases v <;> rfl
  | destination => exact UInt8.ofNat_toNat

/-- The number in a field has the bits of the entry from where the field starts. -/
theorem testBit_number (f : Field) (e : Redirection) (j : Nat) :
    (f.number e).testBit j = (decide (j < f.width) && e.bit (f.start + j)) := by
  rw [number, Nat.testBit_mod_two_pow, Nat.testBit_div_two_pow, Nat.add_comm]
  rfl

/-! ## Reading a field -/

/-- A flag is set when the number of its bit is one. -/
theorem has_eq_decide {b : UInt64} {k : Nat} (hb : b.toNat = 2 ^ k) :
    e.has b = decide (e.raw.toNat / 2 ^ k % 2 ^ 1 = 1) := by
  rw [has_eq_bit hb, bit, Nat.testBit_eq_decide_div_mod_eq, Nat.pow_one]

theorem toUInt8_eq_ofNat (w : UInt64) : w.toUInt8 = UInt8.ofNat (w.toNat % 2 ^ 8) := by
  refine UInt8.toNat_inj.mp ?_
  rw [UInt64.toNat_toUInt8, UInt8.toNat_ofNat', Nat.mod_mod]

/-- The driver reads the delivery mode as the field does. -/
theorem ofBits_eq_meaning (w : UInt64) :
    DeliveryMode.ofBits w = deliveryMode.meaning (w.toNat % 2 ^ 3) := by
  have hlt : w.toNat % 2 ^ 3 < 2 ^ 3 := Nat.mod_lt _ (by decide)
  have hlow : w &&& 7 = UInt64.ofNat (w.toNat % 2 ^ 3) := by
    refine UInt64.toNat_inj.mp ?_
    rw [UInt64.toNat_and, show (7 : UInt64).toNat = 2 ^ 3 - 1 from rfl,
      Nat.and_two_pow_sub_one_eq_mod, UInt64.toNat_ofNat_of_lt' (Nat.lt_trans hlt (by decide))]
  rw [DeliveryMode.ofBits, hlow]
  generalize w.toNat % 2 ^ 3 = n at hlt
  interval_cases n <;> rfl

/-- **What is read of a field is what its number means.** -/
theorem get_eq_meaning (f : Field) (e : Redirection) : f.get e = f.meaning (f.number e) := by
  have hshift (k : UInt64) (hk : k.toNat < 64) :
      (e.raw >>> k).toNat = e.raw.toNat / 2 ^ k.toNat := by
    rw [UInt64.toNat_shiftRight, Nat.mod_eq_of_lt hk, Nat.shiftRight_eq_div_pow]
  have hset {b : UInt64} {k : Nat} (hb : b.toNat = 2 ^ k) :
      e.has b = true ↔ e.raw.toNat / 2 ^ k % 2 ^ 1 = 1 := by
    rw [has_eq_decide hb, decide_eq_true_iff]
  -- Three fields are shifted and cut off, and four are flags.
  cases f with
  | vector =>
    refine (toUInt8_eq_ofNat e.raw).trans ?_
    rw [meaning, number, start, Nat.pow_zero, Nat.div_one]
    rfl
  | deliveryMode =>
    refine (ofBits_eq_meaning (e.raw >>> 8)).trans ?_
    rw [hshift 8 (by decide)]
    rfl
  | logical => exact has_eq_decide rfl
  | polarity => exact if_congr (hset rfl) rfl rfl
  | trigger => exact if_congr (hset rfl) rfl rfl
  | masked => exact has_eq_decide rfl
  | destination =>
    refine (toUInt8_eq_ofNat (e.raw >>> 56)).trans ?_
    rw [hshift 56 (by decide)]
    rfl

/-! ## Setting a field -/

/-- **Setting a field puts the number of the value into its bits**, and changes no other. -/
theorem bit_set (f : Field) (e : Redirection) (v : f.Value) (i : Nat) :
    (f.set e v).bit i
      = if f.Covers i then (f.code v).testBit (i - f.start) else e.bit i := by
  have hflag {b : UInt64} {k : Nat} (hb : b.toNat = 2 ^ k) (on : Bool) :
      (e.withBit b on).bit i
        = if k ≤ i ∧ i < k + 1 then on.toNat.testBit (i - k) else e.bit i := by
    rw [bit_withBit hb]
    by_cases hi : i = k
    · subst hi
      cases on <;> simp
    · rw [if_neg hi, if_neg (by omega)]
  cases f with
  | vector => exact bit_replace 0 8 rfl rfl (UInt8.toNat_lt v)
  | deliveryMode => exact bit_withDeliveryMode v
  | logical => exact hflag rfl v
  | polarity => cases v <;> exact hflag rfl _
  | trigger => cases v <;> exact hflag rfl _
  | masked => exact hflag rfl v
  | destination => exact bit_replace 56 8 rfl (toNat_destination v) (UInt8.toNat_lt v)

theorem bit_set_of_covers (h : f.Covers i) (v : f.Value) :
    (f.set e v).bit i = (f.code v).testBit (i - f.start) := by
  rw [bit_set, if_pos h]

theorem bit_set_of_not_covers (h : ¬f.Covers i) (v : f.Value) : (f.set e v).bit i = e.bit i := by
  rw [bit_set, if_neg h]

/-- **What was written to a field is read back.** -/
theorem number_set (v : f.Value) : f.number (f.set e v) = f.code v := by
  refine Nat.eq_of_testBit_eq fun j => ?_
  rw [testBit_number]
  by_cases hj : j < f.width
  · rw [decide_eq_true hj, Bool.true_and,
      bit_set_of_covers ⟨Nat.le_add_right _ _, Nat.add_lt_add_left hj _⟩, Nat.add_sub_cancel_left]
  · have hlt : f.code v < 2 ^ j :=
      Nat.lt_of_lt_of_le (code_lt v) (Nat.pow_le_pow_right Nat.two_pos (Nat.le_of_not_lt hj))
    rw [decide_eq_false hj, Bool.false_and, Nat.testBit_lt_two_pow hlt]

/-- The other fields keep their numbers. -/
theorem number_set_of_ne (h : f ≠ g) (v : f.Value) : g.number (f.set e v) = g.number e := by
  refine Nat.eq_of_testBit_eq fun j => ?_
  rw [testBit_number, testBit_number]
  by_cases hj : j < g.width
  · have hg : g.Covers (g.start + j) := ⟨Nat.le_add_right _ _, Nat.add_lt_add_left hj _⟩
    rw [bit_set_of_not_covers fun hf => h (hf.unique hg)]
  · rw [decide_eq_false hj, Bool.false_and, Bool.false_and]

/-- **An entry is known by its fields** and by the bits outside of them. -/
theorem ext_number (hnumber : ∀ f : Field, f.number e = f.number e')
    (hother : ∀ i, (∀ f : Field, ¬f.Covers i) → e.bit i = e'.bit i) : e = e' := by
  refine eq_of_bit fun i _ => ?_
  by_cases hfield : ∃ f : Field, f.Covers i
  · obtain ⟨f, hlow, hhigh⟩ := hfield
    have hbit := congrArg (fun n => n.testBit (i - f.start)) (hnumber f)
    rwa [testBit_number, testBit_number, decide_eq_true (by omega), Bool.true_and, Bool.true_and,
      Nat.add_sub_cancel' hlow] at hbit
  · exact hother i fun f hf => hfield ⟨f, hf⟩

/-- **Fields can be set in either order.** -/
theorem set_comm (h : f ≠ g) (v : f.Value) (w : g.Value) :
    f.set (g.set e w) v = g.set (f.set e v) w := by
  refine ext_number (fun k => ?_) fun i hi => ?_
  · by_cases hf : f = k
    · subst hf
      rw [number_set, number_set_of_ne h.symm, number_set]
    · by_cases hg : g = k
      · subst hg
        rw [number_set_of_ne hf, number_set, number_set]
      · rw [number_set_of_ne hf, number_set_of_ne hg, number_set_of_ne hg, number_set_of_ne hf]
  · rw [bit_set_of_not_covers (hi f), bit_set_of_not_covers (hi g), bit_set_of_not_covers (hi g),
      bit_set_of_not_covers (hi f)]

end Field

/-! ## Settings -/

/-- **A field and the value it is set to.** -/
structure Setting where
  field : Field
  value : field.Value

/-- The value that a setting gives to a field, if it is one of this field. -/
def Setting.value? (f : Field) (s : Setting) : Option f.Value :=
  if h : s.field = f then some (h ▸ s.value) else none

/-- **The value that a field was set to last**, if it was set. -/
def lastValue? (f : Field) (settings : List Setting) : Option f.Value :=
  (settings.filterMap (Setting.value? f)).getLast?

/-- **Set fields**, one after the other. -/
def setAll (e : Redirection) (settings : List Setting) : Redirection :=
  settings.foldl (fun e s => s.field.set e s.value) e

section Settings

variable {f : Field} {e : Redirection} {settings settings' : List Setting} {i : Nat}

/-- The last value for a field is the one that the last setting gives it, or else the one before it.
-/
theorem lastValue?_concat (s : Setting) :
    lastValue? f (settings ++ [s]) = (s.value? f).or (lastValue? f settings) := by
  rw [lastValue?, List.filterMap_append, List.getLast?_append]
  cases h : s.value? f with
  | none => rw [List.filterMap_cons_none h]; rfl
  | some v => rw [List.filterMap_cons_some h]; rfl

theorem setAll_concat (s : Setting) :
    e.setAll (settings ++ [s]) = s.field.set (e.setAll settings) s.value :=
  List.foldl_append

/-- **The number of a field after settings** is that of the last value it was set to. -/
theorem number_setAll (f : Field) (e : Redirection) (settings : List Setting) :
    f.number (e.setAll settings) = ((lastValue? f settings).map f.code).getD (f.number e) := by
  -- The last setting of a field decides, so the induction adds settings at the end.
  induction settings using List.reverseRecOn with
  | nil => rfl
  | append_singleton settings s ih =>
    obtain ⟨g, v⟩ := s
    rw [setAll_concat, lastValue?_concat]
    by_cases h : g = f
    · subst h
      rw [Field.number_set, Setting.value?, dif_pos rfl]
      rfl
    · rw [Field.number_set_of_ne h, Setting.value?, dif_neg h, ih]
      rfl

/-- A bit that no setting covers stays. -/
theorem bit_setAll (h : ∀ s ∈ settings, ¬s.field.Covers i) :
    (e.setAll settings).bit i = e.bit i := by
  induction settings using List.reverseRecOn with
  | nil => rfl
  | append_singleton settings s ih =>
    rw [setAll_concat, Field.bit_set_of_not_covers (h s (by simp)),
      ih fun s hs => h s (by simp [hs])]

/-- **Each field has the value it was set to last**, or else the one it had. -/
theorem get_setAll (f : Field) (e : Redirection) (settings : List Setting) :
    f.get (e.setAll settings) = (lastValue? f settings).getD (f.get e) := by
  rw [Field.get_eq_meaning, number_setAll]
  cases lastValue? f settings with
  | none => exact (f.get_eq_meaning e).symm
  | some v => exact f.meaning_code v

/-- Settings that leave the same numbers make the same of an entry. -/
theorem setAll_ext
    (h : ∀ f : Field, f.number (e.setAll settings') = f.number (e.setAll settings)) :
    e.setAll settings' = e.setAll settings := by
  refine Field.ext_number h fun i hi => ?_
  rw [bit_setAll fun s _ => hi s.field, bit_setAll fun s _ => hi s.field]

/-- So only the last value of each field matters. -/
theorem setAll_congr (h : ∀ f : Field, lastValue? f settings' = lastValue? f settings) :
    e.setAll settings' = e.setAll settings :=
  setAll_ext fun f => by rw [number_setAll, number_setAll, h f]

/-- **Settings are obeyed, and nothing else changes.** After any settings of an entry, each field
has the value it was set to last, or what is read of its bits if it was not set. Two fields can be
set in either order, and only the last value of each matters. The bits outside the fields that were
set are as they were, among them always the two that report on the pin and those from 17 to 55. The
two registers of the entry hold all of it, and any two words are those of an entry. -/
theorem settings_obeyed (e : Redirection) (settings : List Setting) :
    (∀ f : Field, f.get (e.setAll settings) = (lastValue? f settings).getD (f.get e)
        ∧ f.get e = f.meaning (f.number e))
      ∧ (∀ (f g : Field) (v : f.Value) (w : g.Value), f ≠ g →
        f.set (g.set e w) v = g.set (f.set e v) w)
      ∧ (∀ settings', (∀ f : Field, lastValue? f settings' = lastValue? f settings) →
        e.setAll settings' = e.setAll settings)
      ∧ (∀ i, (∀ s ∈ settings, ¬s.field.Covers i) → (e.setAll settings).bit i = e.bit i)
      ∧ (∀ i, i = 12 ∨ i = 14 ∨ 17 ≤ i ∧ i < 56 → (e.setAll settings).bit i = e.bit i)
      ∧ (e.setAll settings).isPending = e.isPending
      ∧ (e.setAll settings).remoteIrr = e.remoteIrr
      ∧ ofHalves (e.setAll settings).low (e.setAll settings).high = e.setAll settings
      ∧ ∀ low high, (ofHalves low high).low = low ∧ (ofHalves low high).high = high := by
  have hother (i : Nat) (hi : i = 12 ∨ i = 14 ∨ 17 ≤ i ∧ i < 56) :
      (e.setAll settings).bit i = e.bit i := by
    refine bit_setAll fun s _ hcovers => ?_
    unfold Field.Covers at hcovers
    cases hs : s.field <;> simp only [hs, Field.start, Field.width] at hcovers <;> omega
  refine ⟨fun f => ⟨get_setAll f e settings, f.get_eq_meaning e⟩, fun f g v w h =>
    Field.set_comm h v w, fun _ => setAll_congr, fun i => bit_setAll, hother, ?_, ?_,
    ofHalves_low_high _, fun low high => ⟨low_ofHalves low high, high_ofHalves low high⟩⟩
  · rw [isPending, isPending, has_eq_bit (k := 12) rfl, has_eq_bit (k := 12) rfl,
      hother 12 (by decide)]
  · rw [remoteIrr, remoteIrr, has_eq_bit (k := 14) rfl, has_eq_bit (k := 14) rfl,
      hother 14 (by decide)]

/-- A reserved delivery mode and a pending delivery stay, and the last vector counts. -/
example : (⟨0x1300⟩ : Redirection).setAll
      [⟨.vector, (0x41 : UInt8)⟩, ⟨.destination, (9 : UInt8)⟩, ⟨.vector, (0x42 : UInt8)⟩]
    = ofHalves 0x1342 0x09000000 := by
  decide

end Settings

end Interrupts.Redirection
