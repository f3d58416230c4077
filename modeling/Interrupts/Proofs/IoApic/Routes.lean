import Interrupts.Proofs.IoApic.EntryFields

/-!
# The entry of a route

The entry that the driver writes for an interrupt is `Redirection.route`: the vector, the
destination in the top byte, one bit each for the polarity and the trigger mode, and nothing else.
It is put together from flags, but it could as well be set field by field in an entry that is zero,
and what is read of its fields is known from that.
-/

namespace Interrupts

namespace Redirection

/-- **The entry that delivers a vector to one processor**, from a pin with a polarity and a trigger
mode. -/
def route (vector destination : UInt8) (polarity : PinPolarity) (trigger : PinTrigger) :
    Redirection :=
  ⟨vector.toUInt64 ||| (destination.toUInt64 <<< 56)
    ||| (if polarity = .activeLow then polarityBit else 0)
    ||| (if trigger = .level then triggerBit else 0)⟩

variable {i : Nat} (vector destination : UInt8) (polarity : PinPolarity) (trigger : PinTrigger)

/-- **The bits of a route**: those of the vector and of the destination, and one for each of the two
flags. -/
theorem bit_route :
    (route vector destination polarity trigger).bit i
      = (vector.toNat.testBit i || (decide (56 ≤ i) && destination.toNat.testBit (i - 56))
        || (decide (i = 13) && decide (polarity = .activeLow))
        || (decide (i = 15) && decide (trigger = .level))) := by
  have hflag (k : Nat) {b : UInt64} (hb : b.toNat = 2 ^ k) (p : Prop) [Decidable p] :
      (if p then b else 0).toNat.testBit i = (decide (i = k) && decide p) := by
    by_cases hp : p
    · rw [if_pos hp, hb, Nat.testBit_two_pow, decide_eq_true hp, Bool.and_true]
      exact decide_eq_decide.mpr eq_comm
    · rw [if_neg hp, decide_eq_false hp, Bool.and_false]
      exact Nat.zero_testBit i
  rw [← bit_fixed, bit, route, UInt64.toNat_or, UInt64.toNat_or, Nat.testBit_or, Nat.testBit_or,
    hflag 13 rfl, hflag 15 rfl]
  rfl

/-! ## The fields of a route -/

/-- The settings that make an unmasked entry. -/
def fixedSettings : List Setting :=
  [⟨.vector, vector⟩, ⟨.destination, destination⟩]

/-- The settings that make a route. -/
def routeSettings : List Setting :=
  fixedSettings vector destination ++ [⟨.polarity, polarity⟩, ⟨.trigger, trigger⟩]

/-- The entries that the driver makes are lists of settings to an empty entry. -/
theorem fixed_eq_setAll :
    fixed vector destination = setAll ⟨0⟩ (fixedSettings vector destination) := by
  have hset : setAll ⟨0⟩ (fixedSettings vector destination)
      = Field.destination.set (Field.vector.set ⟨0⟩ vector) destination := rfl
  refine eq_of_bit fun i hi => ?_
  have hzero : bit ⟨0⟩ i = false := Nat.zero_testBit i
  have hvector := testBit_vector vector (i := i)
  rw [bit_fixed, hset, Field.bit_set, Field.bit_set, hzero]
  simp only [Field.Covers, Field.start, Field.width, Field.code]
  grind

/-- A route adds the two flags to these settings. -/
theorem route_eq_setAll : route vector destination polarity trigger
    = setAll ⟨0⟩ (routeSettings vector destination polarity trigger) := by
  have hset : setAll ⟨0⟩ (routeSettings vector destination polarity trigger)
      = Field.trigger.set (Field.polarity.set
        (setAll ⟨0⟩ (fixedSettings vector destination)) polarity) trigger := rfl
  refine eq_of_bit fun i _ => ?_
  have hvector := testBit_vector vector (i := i)
  rw [hset, ← fixed_eq_setAll, bit_route, Field.bit_set, Field.bit_set, bit_fixed]
  simp only [Field.Covers, Field.start, Field.width]
  cases polarity <;> cases trigger <;> simp only [Field.code] <;> grind

/-- What is read of a route is what was set, and zeros otherwise. -/
theorem get_route (f : Field) : f.get (route vector destination polarity trigger)
    = (lastValue? f (routeSettings vector destination polarity trigger)).getD (f.get ⟨0⟩) := by
  rw [route_eq_setAll, get_setAll]

@[simp] theorem isMasked_route : (route vector destination polarity trigger).isMasked = false :=
  get_route vector destination polarity trigger .masked

@[simp] theorem isLogical_route : (route vector destination polarity trigger).isLogical = false :=
  get_route vector destination polarity trigger .logical

@[simp] theorem vector_route : (route vector destination polarity trigger).vector = vector :=
  get_route vector destination polarity trigger .vector

@[simp] theorem destination_route :
    (route vector destination polarity trigger).destination = destination :=
  get_route vector destination polarity trigger .destination

@[simp] theorem deliveryMode_route :
    (route vector destination polarity trigger).deliveryMode = .fixed :=
  get_route vector destination polarity trigger .deliveryMode

/-- The high half of a route is its destination, whatever else it says. -/
theorem high_route (vector' : UInt8) (polarity' : PinPolarity) (trigger' : PinTrigger) :
    (route vector destination polarity trigger).high
      = (route vector' destination polarity' trigger').high := by
  refine high_congr fun i hi => ?_
  rw [bit_route, bit_route, testBit_vector vector (by omega), testBit_vector vector' (by omega),
    decide_eq_false (by omega : i ≠ 13), decide_eq_false (by omega : i ≠ 15)]
  simp

end Redirection

namespace IoApic

variable {R : Type} (a : IoApic R)

/-- The polarity of an interrupt's pin: as the firmware says, or that of the legacy bus. -/
def polarityOf (irq : UInt8) : PinPolarity :=
  ((a.override? irq).map Override.polarity).getD .activeHigh

/-- The trigger mode of an interrupt's pin: as the firmware says, or that of the legacy bus. -/
def triggerOf (irq : UInt8) : PinTrigger :=
  ((a.override? irq).map Override.trigger).getD .edge

open Redirection in
/-- **The entry of an interrupt is its route.** -/
theorem entryFor_eq_route (irq vector : UInt8) :
    a.entryFor irq vector
      = .route vector a.destination (a.polarityOf irq) (a.triggerOf irq) := by
  rw [route_eq_setAll]
  unfold entryFor polarityOf triggerOf
  dsimp only
  rw [fixed_eq_setAll]
  -- The driver sets more fields than a route has, but to what they are already.
  cases a.override? irq with
  | none =>
    show setAll ⟨0⟩ (fixedSettings vector a.destination
      ++ [⟨.deliveryMode, .fixed⟩, ⟨.logical, false⟩]) = _
    refine setAll_ext fun f => ?_
    rw [number_setAll, number_setAll]
    cases f <;> rfl
  | some o =>
    show setAll ⟨0⟩ (fixedSettings vector a.destination
      ++ [⟨.deliveryMode, .fixed⟩, ⟨.logical, false⟩, ⟨.polarity, o.polarity⟩,
        ⟨.trigger, o.trigger⟩]) = _
    refine setAll_ext fun f => ?_
    rw [number_setAll, number_setAll]
    cases f <;> rfl

end IoApic

end Interrupts
