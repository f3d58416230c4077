/-!
# Interrupt vectors

The first 32 of the 256 vectors belong to the processor's own exceptions. They have names, a few
of them are fatal whatever anyone has registered, and for some the processor pushes an error code.
The rest are interrupts, except the last one, which the Local APIC uses for spurious deliveries.
-/

namespace Interrupts

namespace Vectors

/-- The number of vectors reserved for exceptions. -/
def exceptionCount : Nat := 32

/-- The first vector of a hardware interrupt. -/
def irqBase : UInt8 := 32

/-- The vector of spurious deliveries by the Local APIC. -/
def spurious : UInt8 := 0xff

/-- The vectors of the breakpoint and overflow traps. -/
def breakpoint : UInt8 := 3

@[inherit_doc breakpoint] def overflow : UInt8 := 4

/-- The vectors of the processor's exceptions that have a name of their own, in order. -/
def named : List UInt8 :=
  [0, 1, 2, 3, 4, 5, 6, 7, 8, 9, 10, 11, 12, 13, 14, 15, 16, 17, 18, 19, 20, 21]

/-- **Exceptions after which the processor's state cannot be trusted**: the double fault and the
machine check. -/
def isAlwaysFatal (v : UInt8) : Bool :=
  v == 8 || v == 18

/-- **Vectors that only ever end fatally because nothing may claim them**: 15 and 21 to 29. The
last two exception vectors can be claimed. -/
def isReserved (v : UInt8) : Bool :=
  v == 15 || (21 ≤ v && v ≤ 29)

/-- The vectors on which the processor pushes an error code. -/
def hasErrorCode (v : UInt8) : Bool :=
  v == 8 || (10 ≤ v && v ≤ 14) || v == 17 || v == 21 || v == 29 || v == 30

/-- **The name of an exception.** -/
def exceptionName (v : UInt8) : String :=
  match v.toNat with
  | 0 => "Divide Error"
  | 1 => "Debug"
  | 2 => "Non-Maskable Interrupt"
  | 3 => "Breakpoint"
  | 4 => "Overflow"
  | 5 => "Bound Range Exceeded"
  | 6 => "Invalid Opcode"
  | 7 => "Device Not Available"
  | 8 => "Double Fault"
  | 9 => "Coprocessor Segment Overrun"
  | 10 => "Invalid TSS"
  | 11 => "Segment Not Present"
  | 12 => "Stack Segment Fault"
  | 13 => "General Protection Fault"
  | 14 => "Page Fault"
  | 15 => "Reserved"
  | 16 => "x87 FPU Error"
  | 17 => "Alignment Check"
  | 18 => "Machine Check"
  | 19 => "SIMD Floating-Point Exception"
  | 20 => "Virtualization Exception"
  | 21 => "Control Protection Exception"
  | n => if n < exceptionCount then "Reserved" else "Unknown"

/-- **Who serves a vector.** -/
inductive Route where
  /-- The exception table. -/
  | exception
  /-- Nobody: the Local APIC delivered spuriously, and nothing is in service. -/
  | spurious
  /-- The interrupt registry. -/
  | irq
  deriving DecidableEq, Repr

/-- The route's name in reports. -/
def Route.name : Route → String
  | exception => "Exception"
  | spurious => "Spurious"
  | irq => "Irq"

/-- The route of a vector. -/
def route (v : UInt8) : Route :=
  if v.toNat < exceptionCount then .exception
  else if v == spurious then .spurious
  else .irq

end Vectors

end Interrupts
