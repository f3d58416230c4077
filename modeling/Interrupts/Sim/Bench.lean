import Interrupts.Bus

/-!
# A bench for single drivers

A driver is tried out on a bench: a device that it drives, and the log lines it writes meanwhile,
all of them, in order. The state of the bench may hold several devices; a `Socket` says which of
them a driver is plugged into. `trials` carries out a list of operations and looks at the bench after
each.
-/

namespace Interrupts.Sim

/-- Replace the value of a key in a list of pairs. -/
def putKey {α β : Type} [DecidableEq α] (key : α) (value : β) : List (α × β) → List (α × β)
  | [] => [(key, value)]
  | p :: ps => if p.1 = key then (key, value) :: ps else p :: putKey key value ps

/-- **A bench**: devices, and the lines logged so far. -/
structure Bench (δ : Type) where
  device : δ
  lines : Array Record := #[]

/-- The monad of a driver on a bench. -/
abbrev BenchM (δ : Type) := EStateM Stop (Bench δ)

/-- A device with byte-wide ports. -/
class PortDevice (δ : Type) where
  read : UInt16 → δ → UInt8 × δ
  write : UInt16 → UInt8 → δ → δ

/-- A device with a window of 32-bit registers. -/
class RegisterDevice (δ : Type) where
  read : UInt64 → δ → UInt32 × δ
  write : UInt64 → UInt32 → δ → δ

/-- **A device inside a larger state.** -/
structure Socket (ρ δ : Type) where
  get : ρ → δ
  set : δ → ρ → ρ

namespace Socket

variable {ρ δ : Type}

/-- The device that is the whole state. -/
def whole : Socket δ δ where
  get d := d
  set d _ := d

/-- Let the device make a step that answers something. -/
def step {α : Type} (s : Socket ρ δ) (f : δ → α × δ) (r : ρ) : α × ρ :=
  let (a, d) := f (s.get r)
  (a, s.set d r)

/-- Let the device make a step. -/
def change (s : Socket ρ δ) (f : δ → δ) (r : ρ) : ρ :=
  s.set (f (s.get r)) r

end Socket

/-- **Carry out operations in turn** until one of them stops. Answers what became of each, with the
state after it; what the state has recorded is forgotten between two operations. -/
def trials {S ι σ α : Type} (forget : S → S) (step : ι → σ → EStateM Stop S (α × σ)) :
    List ι → σ → S → List (Except Stop α × S)
  | [], _, _ => []
  | op :: ops, s, state =>
    match (step op s).run state with
    | .ok (a, s') state' => (.ok a, state') :: trials forget step ops s' (forget state')
    | .error e state' => [(.error e, state')]

/-- Forget the lines of a bench, and what its devices have recorded. -/
def Bench.forget {δ : Type} (device : δ → δ) (b : Bench δ) : Bench δ :=
  { device := device b.device }

namespace BenchM

variable {ρ δ : Type}

/-- Let the devices make a step that answers something. -/
def onDevice {α : Type} (f : ρ → α × ρ) : BenchM ρ α :=
  modifyGet fun b =>
    let (a, d) := f b.device
    (a, { b with device := d })

/-- Let the devices make a step. -/
def stepDevice (f : ρ → ρ) : BenchM ρ Unit :=
  modify fun b => { b with device := f b.device }

instance : Logger (BenchM ρ) where
  log level text := modify fun b => { b with lines := b.lines.push { level, text } }

instance [PortDevice δ] : PortBus (Socket ρ δ) (BenchM ρ) where
  read8 s port := onDevice (s.step (PortDevice.read port))
  write8 s port value := stepDevice (s.change (PortDevice.write port value))

instance [RegisterDevice δ] : RegisterBus (Socket ρ δ) (BenchM ρ) where
  read32 s offset := onDevice (s.step (RegisterDevice.read offset))
  write32 s offset value := stepDevice (s.change (RegisterDevice.write offset value))

end BenchM

end Interrupts.Sim
