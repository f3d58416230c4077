import Interrupts.Bytes
import Interrupts.Segment

/-!
# Gates

A gate of the interrupt descriptor table is a record of 16 bytes: the target address in three
pieces, the code selector, the interrupt stack index, and an attribute byte holding the present
bit, the privilege level and the kind of the gate. `GateEntry` is that record, `Gate` is what it
means, and `GateEntry.decode` gives the meaning of a record, if it is a gate at all.
-/

namespace Interrupts

/-- **What a gate does to the interrupt flag**: an interrupt gate clears it, a trap gate does
not. -/
inductive GateKind where
  | interrupt
  | trap
  deriving DecidableEq, Repr, Inhabited

namespace GateKind

/-- The kind's name in reports. -/
def name : GateKind → String
  | interrupt => "Interrupt"
  | trap => "Trap"

/-- The four type bits of the attribute byte. -/
def bits : GateKind → UInt8
  | interrupt => 0xe
  | trap => 0xf

/-- The kind that the low four bits of an attribute byte stand for. -/
def ofBits? (b : UInt8) : Option GateKind :=
  if b &&& 0xf = 0xe then some interrupt
  else if b &&& 0xf = 0xf then some trap
  else none

end GateKind

/-- **A privilege level.** -/
inductive Ring where
  | ring0
  | ring1
  | ring2
  | ring3
  deriving DecidableEq, Repr, Inhabited

namespace Ring

/-- The level's name in reports. -/
def name : Ring → String
  | ring0 => "Ring0"
  | ring1 => "Ring1"
  | ring2 => "Ring2"
  | ring3 => "Ring3"

/-- The level as a number. -/
def bits : Ring → UInt8
  | ring0 => 0
  | ring1 => 1
  | ring2 => 2
  | ring3 => 3

/-- The level in the low two bits. -/
def ofBits (b : UInt8) : Ring :=
  if b &&& 3 = 0 then ring0
  else if b &&& 3 = 1 then ring1
  else if b &&& 3 = 2 then ring2
  else ring3

end Ring

/-- **What a gate means.** -/
structure Gate where
  /-- The address control goes to. -/
  target : UInt64
  /-- The code segment of the target. -/
  selector : Selector
  /-- What happens to the interrupt flag. -/
  kind : GateKind
  /-- The privilege needed to enter by a software interrupt. -/
  privilege : Ring
  /-- The gate can be entered. -/
  present : Bool
  /-- The interrupt stack, or 0 for the current one. -/
  ist : UInt8
  deriving DecidableEq, Repr

/-- **One entry of the descriptor table**, field by field as it lies in memory. -/
structure GateEntry where
  /-- Bits 0 to 15 of the target. -/
  offsetLow : UInt16 := 0
  /-- The code selector. -/
  selector : UInt16 := 0
  /-- The interrupt stack index in the low three bits. -/
  ist : UInt8 := 0
  /-- The present bit, the privilege level and the kind. -/
  attributes : UInt8 := 0
  /-- Bits 16 to 31 of the target. -/
  offsetMid : UInt16 := 0
  /-- Bits 32 to 63 of the target. -/
  offsetHigh : UInt32 := 0
  /-- Reserved. -/
  reserved : UInt32 := 0
  deriving DecidableEq, Repr, Inhabited

namespace GateEntry

/-- The attribute byte of an open interrupt gate, and of an open trap gate, of the kernel. -/
def interruptAttributes : UInt8 := 0x8e

@[inherit_doc interruptAttributes] def trapAttributes : UInt8 := 0x8f

/-- The entry that is no gate: all bytes zero. -/
def zero : GateEntry := {}

/-- **The entry of a gate on the current stack.** -/
def new (target : UInt64) (selector : Selector) (kind : GateKind) (privilege : Ring)
    (present : Bool) : GateEntry where
  offsetLow := target.toUInt16
  selector := selector.bits
  attributes := kind.bits ||| (if present then (0x80 : UInt8) else 0) ||| (privilege.bits <<< 5)
  offsetMid := (target >>> 16).toUInt16
  offsetHigh := (target >>> 32).toUInt32

/-- The address control goes to. -/
def target (e : GateEntry) : UInt64 :=
  e.offsetLow.toUInt64 ||| (e.offsetMid.toUInt64 <<< 16) ||| (e.offsetHigh.toUInt64 <<< 32)

/-- The gate can be entered. -/
def isPresent (e : GateEntry) : Bool :=
  e.attributes &&& 0x80 != 0

/-- The interrupt stack index. -/
def istIndex (e : GateEntry) : UInt8 :=
  e.ist &&& 7

/-- Set the interrupt stack index to the low three bits of `index`. -/
def withIst (e : GateEntry) (index : UInt8) : GateEntry :=
  { e with ist := index &&& 7 }

/-- **What an entry means**; `none` when its type bits are those of no gate. -/
def decode (e : GateEntry) : Option Gate :=
  (GateKind.ofBits? e.attributes).map fun kind =>
    { target := e.target
      selector := ⟨e.selector⟩
      kind := kind
      privilege := Ring.ofBits (e.attributes >>> 5)
      present := e.isPresent
      ist := e.istIndex }

/-- The 16 bytes of an entry. -/
def toBytes (e : GateEntry) : Bytes :=
  Bytes.encodeLE 2 e.offsetLow.toNat ++ Bytes.encodeLE 2 e.selector.toNat ++ [e.ist, e.attributes] ++
    Bytes.encodeLE 2 e.offsetMid.toNat ++ Bytes.encodeLE 4 e.offsetHigh.toNat ++
    Bytes.encodeLE 4 e.reserved.toNat

/-- The entry that lies in the first 16 bytes. -/
def ofBytes (bs : Bytes) : GateEntry where
  offsetLow := UInt16.ofNat (bs.field 0 2)
  selector := UInt16.ofNat (bs.field 2 2)
  ist := UInt8.ofNat (bs.field 4 1)
  attributes := UInt8.ofNat (bs.field 5 1)
  offsetMid := UInt16.ofNat (bs.field 6 2)
  offsetHigh := UInt32.ofNat (bs.field 8 4)
  reserved := UInt32.ofNat (bs.field 12 4)

end GateEntry

end Interrupts
