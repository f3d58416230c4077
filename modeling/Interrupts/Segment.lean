/-!
# Segment selectors and flat descriptors

A selector is an index into a descriptor table, a table indicator and a requested privilege level,
packed as `index · 8 + indicator · 4 + level`. The descriptors are the flat ones of the temporary
table a processor uses while it climbs from real mode to long mode.
-/

namespace Interrupts

/-- **A segment selector**, as the processor holds it. -/
structure Selector where
  /-- The packed value. -/
  bits : UInt16
  deriving DecidableEq, Repr, Inhabited

namespace Selector

/-- The selector of an entry of the global table; bits of the index that do not fit are lost. -/
def gdt (index : UInt16) : Selector :=
  ⟨index <<< 3⟩

/-- Replace the requested privilege level by the low two bits of `rpl`. -/
def withRpl (s : Selector) (rpl : UInt8) : Selector :=
  ⟨(s.bits &&& ~~~(3 : UInt16)) ||| (rpl.toUInt16 &&& 3)⟩

/-- The position in the table. -/
def index (s : Selector) : UInt16 :=
  s.bits >>> 3

/-- The requested privilege level. -/
def rpl (s : Selector) : UInt8 :=
  (s.bits &&& 3).toUInt8

/-- Code and data of the kernel. -/
def kernelCode : Selector := gdt 1

@[inherit_doc kernelCode] def kernelData : Selector := gdt 2

/-- The segments of the temporary table: 32-bit code, flat data and 64-bit code. -/
def trampolineCode32 : Selector := gdt 1

@[inherit_doc trampolineCode32] def trampolineData : Selector := gdt 2

@[inherit_doc trampolineCode32] def trampolineCode64 : Selector := gdt 3

end Selector

/-- **A descriptor of base 0 and limit `0xfffff` pages**, with an access byte and four flags. -/
def flatDescriptor (access flags : UInt8) : UInt64 :=
  (0xffff : UInt64) ||| (access.toUInt64 <<< 40) ||| ((0xf : UInt64) <<< 48) |||
    ((flags &&& 0xf).toUInt64 <<< 52)

/-- The descriptors of the temporary table. -/
def flatCode32 : UInt64 := flatDescriptor 0x9a 0xc

@[inherit_doc flatCode32] def flatData : UInt64 := flatDescriptor 0x92 0xc

@[inherit_doc flatCode32] def flatCode64 : UInt64 := flatDescriptor 0x9a 0xa

end Interrupts
