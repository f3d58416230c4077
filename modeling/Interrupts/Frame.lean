import Interrupts.Log
import Interrupts.Text.Hex
import Interrupts.Vectors

/-!
# Interrupt frames

The entry stub of a vector saves the general registers on top of the frame the processor pushed,
together with the vector and an error code. `Frame` is that record; a handler may change it, and
the interrupted program resumes with what is left in it. `Frame.dump` is its printed form.
-/

namespace Interrupts

/-- **The saved state of an interrupted program.** -/
structure Frame where
  r15 : UInt64 := 0
  r14 : UInt64 := 0
  r13 : UInt64 := 0
  r12 : UInt64 := 0
  r11 : UInt64 := 0
  r10 : UInt64 := 0
  r9 : UInt64 := 0
  r8 : UInt64 := 0
  rbp : UInt64 := 0
  rdi : UInt64 := 0
  rsi : UInt64 := 0
  rdx : UInt64 := 0
  rcx : UInt64 := 0
  rbx : UInt64 := 0
  rax : UInt64 := 0
  /-- The vector, as the stub pushed it. -/
  vector : UInt64 := 0
  /-- The error code, or 0 where the processor pushes none. -/
  errorCode : UInt64 := 0
  rip : UInt64 := 0
  cs : UInt64 := 0
  rflags : UInt64 := 0
  rsp : UInt64 := 0
  ss : UInt64 := 0
  deriving DecidableEq, Repr, Inhabited

namespace Frame

/-- A frame with nothing but a vector and an error code. -/
def forVector (v : UInt8) (errorCode : UInt64) : Frame :=
  { vector := v.toUInt64, errorCode }

/-- The vector that is dispatched: the low byte of the saved one. -/
def vectorByte (f : Frame) : UInt8 :=
  f.vector.toUInt8

/-- One saved value: its name, and how it is read and replaced. -/
structure Field where
  name : String
  read : Frame → UInt64
  write : UInt64 → Frame → Frame

/-- **All saved values**, in the order in which they lie in memory. -/
def fields : List Field :=
  [ ⟨"r15", r15, fun v f => { f with r15 := v }⟩,
    ⟨"r14", r14, fun v f => { f with r14 := v }⟩,
    ⟨"r13", r13, fun v f => { f with r13 := v }⟩,
    ⟨"r12", r12, fun v f => { f with r12 := v }⟩,
    ⟨"r11", r11, fun v f => { f with r11 := v }⟩,
    ⟨"r10", r10, fun v f => { f with r10 := v }⟩,
    ⟨"r9", r9, fun v f => { f with r9 := v }⟩,
    ⟨"r8", r8, fun v f => { f with r8 := v }⟩,
    ⟨"rbp", rbp, fun v f => { f with rbp := v }⟩,
    ⟨"rdi", rdi, fun v f => { f with rdi := v }⟩,
    ⟨"rsi", rsi, fun v f => { f with rsi := v }⟩,
    ⟨"rdx", rdx, fun v f => { f with rdx := v }⟩,
    ⟨"rcx", rcx, fun v f => { f with rcx := v }⟩,
    ⟨"rbx", rbx, fun v f => { f with rbx := v }⟩,
    ⟨"rax", rax, fun v f => { f with rax := v }⟩,
    ⟨"vector", vector, fun v f => { f with vector := v }⟩,
    ⟨"error_code", errorCode, fun v f => { f with errorCode := v }⟩,
    ⟨"rip", rip, fun v f => { f with rip := v }⟩,
    ⟨"cs", cs, fun v f => { f with cs := v }⟩,
    ⟨"rflags", rflags, fun v f => { f with rflags := v }⟩,
    ⟨"rsp", rsp, fun v f => { f with rsp := v }⟩,
    ⟨"ss", ss, fun v f => { f with ss := v }⟩ ]

/-- The frame with these values, each asked for by its name. -/
def ofValues (value : String → UInt64) : Frame :=
  fields.foldl (fun f r => r.write (value r.name) f) {}

/-- The values that are not zero, with their names. -/
def nonzero (f : Frame) : List (String × UInt64) :=
  (fields.map fun r => (r.name, r.read f)).filter fun v => v.2 != 0

/-- A register with its name. -/
def register (name : String) (value : UInt64) : String :=
  name ++ ": " ++ hex0x value.toNat

/-- Registers side by side. -/
def row (registers : List (String × UInt64)) : String :=
  "  ".intercalate (registers.map fun r => register r.1 r.2)

/-- **The printed form of a frame**, line by line. -/
def dump (f : Frame) : List String :=
  [ "=== INTERRUPT FRAME DUMP ===",
    s!"Vector: {f.vector.toNat} ({Vectors.exceptionName f.vectorByte}) " ++
      s!"Error Code: {hex0x f.errorCode.toNat}",
    row [("RIP", f.rip), ("CS", f.cs), ("RFLAGS", f.rflags)],
    row [("RSP", f.rsp), ("SS", f.ss)],
    row [("RAX", f.rax), ("RBX", f.rbx), ("RCX", f.rcx)],
    row [("RDX", f.rdx), ("RSI", f.rsi), ("RDI", f.rdi)],
    row [("RBP", f.rbp), ("R8", f.r8), ("R9", f.r9)],
    row [("R10", f.r10), ("R11", f.r11), ("R12", f.r12)],
    row [("R13", f.r13), ("R14", f.r14), ("R15", f.r15)],
    "=== END INTERRUPT FRAME DUMP ===" ]

/-- Log the printed form at the error level. -/
def logDump {m : Type → Type} [Monad m] [Logger m] (f : Frame) : m Unit :=
  logAll (f.dump.map (Record.mk .error))

end Frame

end Interrupts
