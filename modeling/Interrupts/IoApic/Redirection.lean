/-!
# Redirection entries

Each pin of an I/O APIC has a 64-bit entry that says how an interrupt on it is delivered: the
vector, the delivery mode, how the destination is meant, the polarity and trigger mode of the pin,
whether it is masked, and in the top byte the destination. Two bits only report what the pin is
doing. Every setter changes its own bits and no others.
-/

namespace Interrupts

/-- **How an interrupt is delivered to its destination.** -/
inductive DeliveryMode where
  | fixed
  | lowestPriority
  | smi
  | nmi
  | init
  | extInt
  deriving DecidableEq, Repr

namespace DeliveryMode

/-- The mode's name in reports. -/
def name : DeliveryMode → String
  | fixed => "Fixed"
  | lowestPriority => "LowestPriority"
  | smi => "Smi"
  | nmi => "Nmi"
  | init => "Init"
  | extInt => "ExtInt"

/-- The three bits of a mode. -/
def bits : DeliveryMode → UInt64
  | fixed => 0
  | lowestPriority => 1
  | smi => 2
  | nmi => 4
  | init => 5
  | extInt => 7

/-- The mode in the low three bits; the two encodings without a meaning count as fixed. -/
def ofBits (b : UInt64) : DeliveryMode :=
  if b &&& 7 = 1 then lowestPriority
  else if b &&& 7 = 2 then smi
  else if b &&& 7 = 4 then nmi
  else if b &&& 7 = 5 then init
  else if b &&& 7 = 7 then extInt
  else fixed

end DeliveryMode

/-- **The level at which a pin is active.** -/
inductive PinPolarity where
  | activeHigh
  | activeLow
  deriving DecidableEq, Repr

/-- The polarity's name in reports. -/
def PinPolarity.name : PinPolarity → String
  | activeHigh => "ActiveHigh"
  | activeLow => "ActiveLow"

/-- **What makes a pin raise an interrupt.** -/
inductive PinTrigger where
  | edge
  | level
  deriving DecidableEq, Repr

/-- The trigger's name in reports. -/
def PinTrigger.name : PinTrigger → String
  | edge => "Edge"
  | level => "Level"

/-- **The entry of one pin.** -/
structure Redirection where
  raw : UInt64
  deriving DecidableEq, Repr

namespace Redirection

/-- The single-bit fields. -/
def logicalBit : UInt64 := 0x800

@[inherit_doc logicalBit] def pendingBit : UInt64 := 0x1000

@[inherit_doc logicalBit] def polarityBit : UInt64 := 0x2000

@[inherit_doc logicalBit] def remoteIrrBit : UInt64 := 0x4000

@[inherit_doc logicalBit] def triggerBit : UInt64 := 0x8000

@[inherit_doc logicalBit] def maskBit : UInt64 := 0x10000

/-- The entry of a pin that delivers nothing: masked, and otherwise zero. -/
def masked : Redirection := ⟨maskBit⟩

/-- The entry whose two registers hold these words. -/
def ofHalves (low high : UInt32) : Redirection :=
  ⟨(high.toUInt64 <<< 32) ||| low.toUInt64⟩

/-- The word of an entry's low register. -/
def low (e : Redirection) : UInt32 :=
  e.raw.toUInt32

/-- The word of an entry's high register. -/
def high (e : Redirection) : UInt32 :=
  (e.raw >>> 32).toUInt32

/-- **An unmasked entry** that delivers a vector to one processor. -/
def fixed (vector apicId : UInt8) : Redirection :=
  ⟨vector.toUInt64 ||| (apicId.toUInt64 <<< 56)⟩

/-- A bit of the entry is set. -/
def has (e : Redirection) (bit : UInt64) : Bool :=
  e.raw &&& bit != 0

/-- Set or clear a bit. -/
def withBit (e : Redirection) (bit : UInt64) (on : Bool) : Redirection :=
  if on then ⟨e.raw ||| bit⟩ else ⟨e.raw &&& ~~~bit⟩

/-- The vector that is delivered. -/
def vector (e : Redirection) : UInt8 :=
  e.raw.toUInt8

@[inherit_doc vector] def withVector (e : Redirection) (v : UInt8) : Redirection :=
  ⟨(e.raw &&& ~~~(0xff : UInt64)) ||| v.toUInt64⟩

/-- How the interrupt is delivered. -/
def deliveryMode (e : Redirection) : DeliveryMode :=
  DeliveryMode.ofBits (e.raw >>> 8)

@[inherit_doc deliveryMode] def withDeliveryMode (e : Redirection) (d : DeliveryMode) :
    Redirection :=
  ⟨(e.raw &&& ~~~((7 : UInt64) <<< 8)) ||| (d.bits <<< 8)⟩

/-- The destination is a set of processors, not an APIC id. -/
def isLogical (e : Redirection) : Bool :=
  e.has logicalBit

@[inherit_doc isLogical] def withLogical (e : Redirection) (on : Bool) : Redirection :=
  e.withBit logicalBit on

/-- The level at which the pin is active. -/
def polarity (e : Redirection) : PinPolarity :=
  if e.has polarityBit then .activeLow else .activeHigh

@[inherit_doc polarity] def withPolarity (e : Redirection) (p : PinPolarity) : Redirection :=
  e.withBit polarityBit (p = .activeLow)

/-- What makes the pin raise an interrupt. -/
def trigger (e : Redirection) : PinTrigger :=
  if e.has triggerBit then .level else .edge

@[inherit_doc trigger] def withTrigger (e : Redirection) (t : PinTrigger) : Redirection :=
  e.withBit triggerBit (t = .level)

/-- The pin delivers nothing. -/
def isMasked (e : Redirection) : Bool :=
  e.has maskBit

@[inherit_doc isMasked] def withMasked (e : Redirection) (on : Bool) : Redirection :=
  e.withBit maskBit on

/-- A delivery is waiting in the controller. -/
def isPending (e : Redirection) : Bool :=
  e.has pendingBit

/-- A level-triggered delivery was accepted and is not over. -/
def remoteIrr (e : Redirection) : Bool :=
  e.has remoteIrrBit

/-- Where the interrupt is delivered. -/
def destination (e : Redirection) : UInt8 :=
  (e.raw >>> 56).toUInt8

@[inherit_doc destination] def withDestination (e : Redirection) (apicId : UInt8) : Redirection :=
  ⟨(e.raw &&& ~~~((0xff : UInt64) <<< 56)) ||| (apicId.toUInt64 <<< 56)⟩

end Redirection

end Interrupts
