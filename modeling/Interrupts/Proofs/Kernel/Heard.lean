import Interrupts.Proofs.Kernel.Watched

/-!
# Hearing the tick

Whoever wants to know the time sets a hook, and the kernel runs it with the number of every tick.
To say which ticks a hook was told of, the hardware of any surroundings is put together with a list
of the hooks that ran so far, each with the number it was given. What a hook does stays its own
affair.

`hushed` is the conduct of computations that leave the time alone: no hook runs, and neither ticks
nor deliveries are counted. Everything that a delivery does keeps to it, apart from the handler of
the tick itself.
-/

namespace Interrupts

/-- **The surroundings, heard**: the hardware with all hooks that ran so far. -/
def Heard (X : Surroundings) : Surroundings :=
  { X with Hardware := X.Hardware × List (X.Hook × UInt64) }

section Hearing

variable {α η ω : Type}

/-- A step of the hardware in which no hook runs. -/
def unheard (f : η → α × η) (hw : η × ω) : α × η × ω :=
  let (a, hw') := f hw.1
  (a, hw', hw.2)

@[inherit_doc unheard] def unheardStep (f : η → η) (hw : η × ω) : η × ω :=
  (f hw.1, hw.2)

@[inherit_doc unheard] def unheardEffect (f : η → Effect α η) (hw : η × ω) : Effect α (η × ω) :=
  let effect := f hw.1
  { value := effect.value, lines := effect.lines, hardware := (effect.hardware, hw.2) }

end Hearing

variable {X : Surroundings}

instance [Behaviour X] : Behaviour (Heard X) where
  portRead port := unheard (Behaviour.portRead (X := X) port)
  portWrite port value := unheardStep (Behaviour.portWrite (X := X) port value)
  load address := unheard (Behaviour.load (X := X) address)
  store address value := unheardStep (Behaviour.store (X := X) address value)
  fetch address length hw := Behaviour.fetch (X := X) address length hw.1
  place address bytes := unheardStep (Behaviour.place (X := X) address bytes)
  readMsr register := unheard (Behaviour.readMsr (X := X) register)
  writeMsr register value := unheardStep (Behaviour.writeMsr (X := X) register value)
  loadIdt := unheardStep (Behaviour.loadIdt (X := X))
  halt := unheardStep (Behaviour.halt (X := X))
  hasLocalApic hw := Behaviour.hasLocalApic (X := X) hw.1
  cr3 hw := Behaviour.cr3 (X := X) hw.1
  gdt hw := Behaviour.gdt (X := X) hw.1
  idtAddress := Behaviour.idtAddress X
  stubBase := Behaviour.stubBase X
  entryAddress := Behaviour.entryAddress X
  image := Behaviour.image X
  allocate size := unheard (Behaviour.allocate (X := X) size)
  arrivals := unheard (Behaviour.arrivals (X := X))
  console text := unheardStep (Behaviour.console (X := X) text)
  deviceName := Behaviour.deviceName (X := X)
  serve d irq f := unheard (Behaviour.serve (X := X) d irq f)
  react := Behaviour.react (X := X)
  externalName := Behaviour.externalName (X := X)
  externalLines e hw := Behaviour.externalLines (X := X) e hw.1
  externalIrq e vector := unheardEffect (Behaviour.externalIrq (X := X) e vector)
  externalEoi e vector irq := unheardEffect (Behaviour.externalEoi (X := X) e vector irq)
  externalMask e irq := unheardEffect (Behaviour.externalMask (X := X) e irq)
  externalUnmask e irq := unheardEffect (Behaviour.externalUnmask (X := X) e irq)
  mapDevice p phys length hw := Behaviour.mapDevice (X := X) p phys length hw.1
  identityMap p start length hw := Behaviour.identityMap (X := X) p start length hw.1
  unmap p start length hw := Behaviour.unmap (X := X) p start length hw.1
  runHook (hook : X.Hook) now hw :=
    (Behaviour.runHook (X := X) hook now hw.1, hw.2 ++ [(hook, now)])

/-- The hooks that ran so far, each with the number of its tick. -/
def Kernel.heard (k : Kernel (Watched (Heard X))) : List (X.Hook × UInt64) :=
  k.hardware.1.2

/-- The hook in force. -/
def Kernel.hook (k : Kernel (Watched (Heard X))) : Option X.Hook :=
  k.tickHook

/-- **The conduct of computations that leave the time alone.** They may stop in any way. -/
def hushed (X : Surroundings) [Behaviour X] : Conduct (Watched (Heard X)) where
  keeps hw hw' := hw'.1.2 = hw.1.2
  mayWrite _ _ := True
  mayStore _ _ := True
  mayCount := False
  steady := False
  alsoStops _ := True
  refl := fun _ => rfl
  trans := fun h h' => h'.trans h
  serial := fun _ => trivial
  portRead := fun _ _ => rfl
  portWrite := fun _ _ => rfl
  load := fun _ _ => rfl
  store := fun _ _ => rfl
  place := fun _ _ _ => rfl
  allocate := fun _ _ => rfl
  arrivals := fun _ => rfl
  console := fun _ _ => rfl
  serve := fun _ _ _ _ => rfl
  runHook := fun h => h.elim
  externalIrq := fun _ _ _ => rfl
  externalEoi := fun _ _ _ _ => rfl

variable [Behaviour X] {k k' : Kernel (Watched (Heard X))}

/-- **The time was left alone.** -/
structure Kernel.SameTime (k k' : Kernel (Watched (Heard X))) : Prop where
  heard : k'.heard = k.heard
  ticks : k'.ticks = k.ticks
  hook : k'.hook = k.hook

theorem Kernel.Keeps.sameTime (h : Kernel.Keeps (hushed X) k k') : k.SameTime k' where
  heard := h.hardware
  ticks := (h.counts.resolve_left fun hcount => hcount).2
  hook := by rw [Kernel.hook, h.rest]; rfl

end Interrupts
