import Interrupts.Gate
import Interrupts.Vectors

/-!
# The interrupt descriptor table

One table of 256 entries serves every processor. Gates are opened, closed and given an interrupt
stack one vector at a time. The gates of the exceptions stay open once they are: a request to close
one is refused, as is a stack index that does not exist, and a refusal changes nothing.
-/

namespace Interrupts

/-- **Why a change of the table is refused.** -/
inductive GateRefusal where
  /-- The gates of exceptions are never closed. -/
  | exceptionVector (vector : UInt8)
  /-- There are seven interrupt stacks. -/
  | istIndex (vector index : UInt8)
  deriving DecidableEq, Repr

/-- The warning for a refusal. -/
def GateRefusal.message : GateRefusal → String
  | exceptionVector v => s!"IDT: Refusing to close exception vector {v.toNat}"
  | istIndex v i => s!"IDT: Invalid IST index {i.toNat} for vector {v.toNat}"

/-- **The interrupt descriptor table.** -/
structure GateTable where
  /-- The entry of each vector. -/
  entries : Vector GateEntry 256

namespace GateTable

/-- The limit the processor is given with the table's address. -/
def limit : Nat := 256 * 16 - 1

/-- The largest interrupt stack index. -/
def maxIst : UInt8 := 7

/-- The table without any gate. -/
def empty : GateTable :=
  ⟨Vector.replicate 256 GateEntry.zero⟩

/-- The entry of a vector. -/
def entry (t : GateTable) (v : UInt8) : GateEntry :=
  have := v.toNat_lt
  t.entries[v.toNat]

/-- Replace the entry of a vector. -/
def setEntry (t : GateTable) (v : UInt8) (e : GateEntry) : GateTable :=
  ⟨t.entries.set v.toNat e v.toNat_lt⟩

/-- **The gate of a vector**; `none` when it is closed. -/
def gate (t : GateTable) (v : UInt8) : Option Gate :=
  (t.entry v).decode

/-- Open a gate. -/
def setGate (t : GateTable) (v : UInt8) (target : UInt64) (selector : Selector) (kind : GateKind)
    (privilege : Ring) (present : Bool) : GateTable :=
  t.setEntry v (.new target selector kind privilege present)

/-- Open an interrupt gate of the kernel. -/
def openInterrupt (t : GateTable) (v : UInt8) (target : UInt64) : GateTable :=
  t.setGate v target .kernelCode .interrupt .ring0 true

/-- Open a trap gate of the kernel. -/
def openTrap (t : GateTable) (v : UInt8) (target : UInt64) : GateTable :=
  t.setGate v target .kernelCode .trap .ring0 true

/-- **Close a gate**, unless it is the gate of an exception. -/
def close (t : GateTable) (v : UInt8) : Except GateRefusal GateTable :=
  if v.toNat < Vectors.exceptionCount then .error (.exceptionVector v)
  else .ok (t.setEntry v .zero)

/-- **Choose the interrupt stack of a vector**, whether its gate is open or not. -/
def setIst (t : GateTable) (v index : UInt8) : Except GateRefusal GateTable :=
  if maxIst < index then .error (.istIndex v index)
  else .ok (t.setEntry v ((t.entry v).withIst index))

theorem entry_setEntry_self (t : GateTable) (v : UInt8) (e : GateEntry) :
    (t.setEntry v e).entry v = e := by
  simp [entry, setEntry]

theorem entry_setEntry_of_ne (t : GateTable) {v w : UInt8} (e : GateEntry) (h : w ≠ v) :
    (t.setEntry v e).entry w = t.entry w := by
  have : v.toNat ≠ w.toNat := fun h' => h (UInt8.toNat_inj.mp h'.symm)
  simp [entry, setEntry, this]

end GateTable

end Interrupts
