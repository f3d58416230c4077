import Interrupts.Kernel.Lines
import Interrupts.Proofs.Discipline
import Interrupts.Proofs.Processor.Flags

/-!
# The conduct of the kernel

Most of what the kernel does on the way to something else leaves the kernel as it is: it reads a
register, writes a log line, asks a handler. Meanwhile the hardware goes on, processors raise their
flags, and ticks and deliveries are counted, but nothing else changes. A `Conduct` says which of the
hardware's changes count as harmless, which writes may be made to it, whether anything is counted,
and whether such a computation may stop; this module proves of the kernel's primitives that they
keep to any conduct that allows what they do.

A kernel whose log does not go to the serial port, and whose Local APIC windows are whole pages, is
`Calm`: nothing that it does on these ways can stop it.
-/

namespace Interrupts

/-! ## Calm kernels -/

/-- The window is a page of registers, and no address in it wraps. -/
def Window.IsPage (w : Window) : Prop :=
  0x1000 ≤ w.size.toNat ∧ w.virtBase.toNat + 0x1000 ≤ UInt64.size

/-- **A kernel that nothing stops** on the way: lines do not go to the serial port, and the Local
APIC's windows are pages. -/
structure Kernel.Calm {X : Surroundings} (k : Kernel X) : Prop where
  /-- A serial port may never be ready to send. -/
  backend : k.backend ≠ .serial
  /-- Registers that lie inside a page are never out of the window. -/
  localApic : ∀ a, k.localApic.get? = some a → a.window.IsPage
  /-- The same of the controller that is in charge. -/
  active : ∀ c, k.active = some (.apic c) → c.localApic.window.IsPage

/-- The stop is a wait that was in vain, an access outside a window, or arithmetic that left its
word. -/
def Stop.IsMishap : Stop → Prop
  | .stalled => True
  | .fault .addOverflow => True
  | .fault .mulOverflow => True
  | .fault (.readOutOfBounds _ _) => True
  | .fault (.writeOutOfBounds _ _) => True
  | _ => False

/-! ## Conducts -/

/-- **A conduct of the kernel.** -/
structure Conduct (X : Surroundings) [Behaviour X] where
  /-- How the hardware may change. -/
  keeps : X.Hardware → X.Hardware → Prop
  /-- Which writes to ports and to registers may be made. -/
  mayWrite : UInt16 → UInt8 → Prop
  /-- Which values may be stored where. -/
  mayStore : UInt64 → UInt32 → Prop
  /-- Ticks and deliveries may be counted. -/
  mayCount : Prop
  /-- Calm kernels must not stop. -/
  steady : Prop
  /-- Further ways to stop. -/
  alsoStops : Stop → Prop
  /-- Nothing may happen at any time. -/
  refl : ∀ hw, keeps hw hw
  /-- What may happen in two steps may happen in one. -/
  trans : ∀ {hw hw' hw''}, keeps hw hw' → keeps hw' hw'' → keeps hw hw''
  /-- Log lines may be sent over the serial port. -/
  serial : ∀ b, mayWrite Serial.dataPort b
  /-- A read of a port may have effects, such as taking a byte off a device. -/
  portRead : ∀ port hw, keeps hw (Behaviour.portRead port hw).2
  portWrite : ∀ {port value}, mayWrite port value →
    ∀ hw, keeps hw (Behaviour.portWrite port value hw)
  /-- So may a load from a register. -/
  load : ∀ address hw, keeps hw (Behaviour.load address hw).2
  store : ∀ {address value}, mayStore address value →
    ∀ hw, keeps hw (Behaviour.store address value hw)
  /-- Memory is written for processors that start. -/
  place : ∀ address bytes hw, keeps hw (Behaviour.place address bytes hw)
  allocate : ∀ size hw, keeps hw (Behaviour.allocate size hw).2
  /-- Processors raise their flags when they please. -/
  arrivals : ∀ hw, keeps hw (Behaviour.arrivals hw).2
  console : ∀ text hw, keeps hw (Behaviour.console text hw)
  /-- A handler of a device does what the hardware lets it do. -/
  serve : ∀ d irq f hw, keeps hw (Behaviour.serve d irq f hw).2
  /-- A hook is run only where ticks are counted. -/
  runHook : mayCount → ∀ hook now hw, keeps hw (Behaviour.runHook hook now hw)
  /-- Another controller names the line of a delivery. -/
  externalIrq : ∀ c vector hw, keeps hw (Behaviour.externalIrq c vector hw).hardware
  /-- Another controller is told that a delivery is over. -/
  externalEoi : ∀ c vector irq hw, keeps hw (Behaviour.externalEoi c vector irq hw).hardware

variable {X : Surroundings} [Behaviour X]

/-- **The conduct that allows everything** to the hardware. -/
def Conduct.free (X : Surroundings) [Behaviour X] (steady : Prop) (alsoStops : Stop → Prop) :
    Conduct X where
  keeps _ _ := True
  mayWrite _ _ := True
  mayStore _ _ := True
  mayCount := True
  steady := steady
  alsoStops := alsoStops
  refl := fun _ => trivial
  trans := fun _ _ => trivial
  serial := fun _ => trivial
  portRead := fun _ _ => trivial
  portWrite := fun _ _ => trivial
  load := fun _ _ => trivial
  store := fun _ _ => trivial
  place := fun _ _ _ => trivial
  allocate := fun _ _ => trivial
  arrivals := fun _ => trivial
  console := fun _ _ => trivial
  serve := fun _ _ _ _ => trivial
  runHook := fun _ _ _ _ => trivial
  externalIrq := fun _ _ _ => trivial
  externalEoi := fun _ _ _ _ => trivial

/-- **What a kernel keeps** under a conduct: only the hardware, the flags of processors, the two
tables of handlers and the count of ticks may have changed. -/
structure Kernel.Keeps (c : Conduct X) (k k' : Kernel X) : Prop where
  /-- The hardware changed as the conduct allows. -/
  hardware : c.keeps k.hardware k'.hardware
  /-- No processor lowers its flag, and the table changes in no other way. -/
  processors : k.processors.Raises k'.processors
  /-- Nothing is counted behind the back of a conduct that forbids it. -/
  counts : c.mayCount ∨ k'.registry = k.registry ∧ k'.ticks = k.ticks
  /-- Every other part of the kernel is as it was. -/
  rest : k' = { k with
    hardware := k'.hardware
    processors := k'.processors
    exceptions := k'.exceptions
    registry := k'.registry
    ticks := k'.ticks }

namespace Kernel.Keeps

variable {c : Conduct X} {k k' k'' : Kernel X}

theorem refl (c : Conduct X) (k : Kernel X) : Keeps c k k :=
  ⟨c.refl _, .refl _, .inr ⟨rfl, rfl⟩, rfl⟩

theorem trans (h : Keeps c k k') (h' : Keeps c k' k'') : Keeps c k k'' where
  hardware := c.trans h.hardware h'.hardware
  processors := h.processors.trans h'.processors
  counts := h.counts.elim .inl fun h => h'.counts.imp_right fun h' =>
    ⟨h'.1.trans h.1, h'.2.trans h.2⟩
  rest := by
    rw [h'.rest, h.rest]

theorem pic (h : Keeps c k k') : k'.pic = k.pic := by rw [h.rest]

theorem active (h : Keeps c k k') : k'.active = k.active := by rw [h.rest]

theorem calm_iff (h : Keeps c k k') : k'.Calm ↔ k.Calm := by
  constructor
  · rintro ⟨hbackend, hlocal, hactive⟩
    rw [h.rest] at hbackend hlocal hactive
    exact ⟨hbackend, hlocal, hactive⟩
  · rintro ⟨hbackend, hlocal, hactive⟩
    rw [h.rest]
    exact ⟨hbackend, hlocal, hactive⟩

end Kernel.Keeps

/-- The kernel need not go on. -/
def Conduct.MayStop (c : Conduct X) (k : Kernel X) : Prop :=
  ¬(c.steady ∧ k.Calm)

/-- **The discipline of a conduct.** -/
def Conduct.discipline (c : Conduct X) : Discipline Stop (Kernel X) where
  keeps := Kernel.Keeps c
  stops k e k' := Kernel.Keeps c k k' ∧ (c.MayStop k ∧ e.IsMishap ∨ c.alsoStops e)
  refl := Kernel.Keeps.refl c
  trans := Kernel.Keeps.trans
  stops_of_keeps := fun h ⟨hkeeps, hstops⟩ => ⟨h.trans hkeeps, hstops.imp_left fun ⟨hmay, he⟩ =>
    ⟨fun ⟨hsteady, hcalm⟩ => hmay ⟨hsteady, h.calm_iff.mpr hcalm⟩, he⟩⟩

theorem Conduct.MayStop.of_keeps {c : Conduct X} {k k' : Kernel X} (h : c.MayStop k)
    (hkeeps : Kernel.Keeps c k k') : c.MayStop k' :=
  fun ⟨hsteady, hcalm⟩ => h ⟨hsteady, hkeeps.calm_iff.mp hcalm⟩

end Interrupts
