import Interrupts.Proofs.Kernel.Primitives

/-!
# Watching the kernel write

To say what the kernel writes to the hardware, the hardware of any surroundings is put together
with a list of what the kernel did to it so far: the bytes it wrote to ports, the words it stored in
registers, and the handlers from outside that it ran. What such a handler does by itself is not the
kernel's doing and stays unseen.

What matters of these events is whether they reach an interrupt controller. A store to a register
and a byte for a command port of the 8259 pair are commands, whatever they say, and of these
commands only the question for the lines in service cannot end a delivery. So there are two kinds of
events to do without: `uncommanding` computations leave the controllers alone, and `silent` ones
may ask.
-/

namespace Interrupts

/-- **What the kernel did to the hardware.** -/
inductive HardwareEvent where
  /-- It wrote a byte to a port. -/
  | out (port : UInt16) (value : UInt8)
  /-- It stored a word in a register. -/
  | store (address : UInt64) (value : UInt32)
  /-- It ran a handler from outside for a line. -/
  | served (irq : UInt8)
  deriving DecidableEq, Repr

/-- **The surroundings, watched**: the hardware with all events so far. -/
def Watched (X : Surroundings) : Surroundings :=
  { X with Hardware := X.Hardware × List HardwareEvent }

section Watching

variable {α η : Type}

/-- A step of the hardware of which nothing is seen. -/
def unseen (f : η → α × η) (hw : η × List HardwareEvent) : α × η × List HardwareEvent :=
  let (a, hw') := f hw.1
  (a, hw', hw.2)

/-- A step of the hardware of which an event is seen. -/
def seen (e : HardwareEvent) (f : η → η) (hw : η × List HardwareEvent) : η × List HardwareEvent :=
  (f hw.1, hw.2 ++ [e])

/-- What a controller from outside does is not seen. -/
def unseenEffect (f : η → Effect α η) (hw : η × List HardwareEvent) :
    Effect α (η × List HardwareEvent) :=
  let effect := f hw.1
  { value := effect.value, lines := effect.lines, hardware := (effect.hardware, hw.2) }

end Watching

variable {X : Surroundings}

instance [Behaviour X] : Behaviour (Watched X) where
  portRead port := unseen (Behaviour.portRead (X := X) port)
  portWrite port value := seen (.out port value) (Behaviour.portWrite (X := X) port value)
  load address := unseen (Behaviour.load (X := X) address)
  store address value := seen (.store address value) (Behaviour.store (X := X) address value)
  fetch address length hw := Behaviour.fetch (X := X) address length hw.1
  place address bytes hw := (Behaviour.place (X := X) address bytes hw.1, hw.2)
  readMsr register := unseen (Behaviour.readMsr (X := X) register)
  writeMsr register value hw := (Behaviour.writeMsr (X := X) register value hw.1, hw.2)
  loadIdt hw := (Behaviour.loadIdt (X := X) hw.1, hw.2)
  halt hw := (Behaviour.halt (X := X) hw.1, hw.2)
  hasLocalApic hw := Behaviour.hasLocalApic (X := X) hw.1
  cr3 hw := Behaviour.cr3 (X := X) hw.1
  gdt hw := Behaviour.gdt (X := X) hw.1
  idtAddress := Behaviour.idtAddress X
  stubBase := Behaviour.stubBase X
  entryAddress := Behaviour.entryAddress X
  image := Behaviour.image X
  allocate size := unseen (Behaviour.allocate (X := X) size)
  arrivals := unseen (Behaviour.arrivals (X := X))
  console text hw := (Behaviour.console (X := X) text hw.1, hw.2)
  deviceName := Behaviour.deviceName (X := X)
  serve d irq f hw :=
    let (answer, hw') := Behaviour.serve (X := X) d irq f hw.1
    (answer, hw', hw.2 ++ [.served irq])
  react := Behaviour.react (X := X)
  externalName := Behaviour.externalName (X := X)
  externalLines e hw := Behaviour.externalLines (X := X) e hw.1
  externalIrq e vector := unseenEffect (Behaviour.externalIrq (X := X) e vector)
  externalEoi e vector irq := unseenEffect (Behaviour.externalEoi (X := X) e vector irq)
  externalMask e irq := unseenEffect (Behaviour.externalMask (X := X) e irq)
  externalUnmask e irq := unseenEffect (Behaviour.externalUnmask (X := X) e irq)
  mapDevice p phys length hw := Behaviour.mapDevice (X := X) p phys length hw.1
  identityMap p start length hw := Behaviour.identityMap (X := X) p start length hw.1
  unmap p start length hw := Behaviour.unmap (X := X) p start length hw.1
  runHook hook now hw := (Behaviour.runHook (X := X) hook now hw.1, hw.2)

/-- Surroundings without any state, for kernels that are looked at by themselves. -/
def Still : Surroundings :=
  ⟨Unit, Unit, Unit, Unit, Unit, Unit⟩

/-- Every port reads as 2, so that both chips of an 8259 pair report their second line, and all
memory as zero; handlers claim every delivery and no other processor is there. -/
instance : Behaviour Still where
  portRead _ hw := (2, hw)
  portWrite _ _ hw := hw
  load _ hw := (0, hw)
  store _ _ hw := hw
  fetch _ length _ := List.replicate length 0
  place _ _ hw := hw
  readMsr _ hw := (0, hw)
  writeMsr _ _ hw := hw
  loadIdt hw := hw
  halt hw := hw
  hasLocalApic _ := true
  cr3 _ := 0x1000
  gdt _ := (0, 0)
  idtAddress := 0
  stubBase := 0
  entryAddress := 0
  image := { bytes := [], paramsOffset := 0 }
  allocate _ hw := (none, hw)
  arrivals hw := ([], hw)
  console _ hw := hw
  deviceName _ := "still"
  serve _ _ f hw := ((.handled, f), hw)
  react _ f := .decide .handled f
  externalName _ := "still"
  externalLines _ _ := 0
  externalIrq _ _ hw := ⟨none, [], hw⟩
  externalEoi _ _ _ hw := ⟨(), [], hw⟩
  externalMask _ _ hw := ⟨(), [], hw⟩
  externalUnmask _ _ hw := ⟨(), [], hw⟩
  mapDevice _ phys _ _ := .ok phys
  identityMap _ _ _ _ := .ok ()
  unmap _ _ _ _ := .ok ()
  runHook _ _ hw := hw

/-- The events of a watched kernel. -/
def Kernel.events (k : Kernel (Watched X)) : List HardwareEvent :=
  k.hardware.2

/-- **The event is a command to an interrupt controller**: any byte for a command port of the 8259
pair, or a store to a register, of which the entry path makes none but one to a Local APIC. -/
def HardwareEvent.Commands : HardwareEvent → Prop
  | .out port _ => port = Pic.masterCommand ∨ port = Pic.slaveCommand
  | .store _ _ => True
  | .served _ => False

/-- **The event may end a delivery**: it is any command but the question to a chip for its lines in
service. Besides `Pic.eoiCommand` these are the commands that end one given line, those that rotate
the priorities, and an initialisation, which forgets all lines in service. -/
def HardwareEvent.Acknowledges : HardwareEvent → Prop
  | .out port value =>
    (port = Pic.masterCommand ∨ port = Pic.slaveCommand) ∧ value ≠ Pic.readInService
  | .store _ _ => True
  | .served _ => False

/-- **Between two states of the hardware there was no event of a kind.** -/
def Without (kind : HardwareEvent → Prop) {η : Type} (hw hw' : η × List HardwareEvent) : Prop :=
  ∃ events, hw'.2 = hw.2 ++ events ∧ ∀ e ∈ events, ¬kind e

/-- Between two states of the hardware nothing acknowledged. -/
def Silently {η : Type} (hw hw' : η × List HardwareEvent) : Prop :=
  Without HardwareEvent.Acknowledges hw hw'

namespace Without

variable {kind : HardwareEvent → Prop} {η : Type} {hw hw' hw'' : η × List HardwareEvent}

theorem of_eq (h : hw'.2 = hw.2) : Without kind hw hw' :=
  ⟨[], h.trans (List.append_nil _).symm, fun _ he => absurd he List.not_mem_nil⟩

theorem one {e : HardwareEvent} (h : hw'.2 = hw.2 ++ [e]) (he : ¬kind e) : Without kind hw hw' :=
  ⟨[e], h, fun e' he' => by rw [List.mem_singleton.mp he']; exact he⟩

theorem trans (h : Without kind hw hw') (h' : Without kind hw' hw'') : Without kind hw hw'' := by
  obtain ⟨events, heq, hnone⟩ := h
  obtain ⟨events', heq', hnone'⟩ := h'
  refine ⟨events ++ events', by rw [heq', heq, List.append_assoc], fun e he => ?_⟩
  exact (List.mem_append.mp he).elim (hnone e) (hnone' e)

end Without

/-- **The conduct of computations without events of a kind**, as long as no byte of a log line and
no run of a handler is of this kind: nobody can keep a kernel from these. Calm kernels go on, and
anything else may stop in the further ways given. -/
def avoiding (kind : HardwareEvent → Prop) (hserial : ∀ b, ¬kind (.out Serial.dataPort b))
    (hserved : ∀ irq, ¬kind (.served irq)) (X : Surroundings) [Behaviour X]
    (alsoStops : Stop → Prop) : Conduct (Watched X) where
  keeps := Without kind
  mayWrite port value := ¬kind (.out port value)
  mayStore address value := ¬kind (.store address value)
  mayCount := True
  steady := True
  alsoStops := alsoStops
  refl := fun _ => .of_eq rfl
  trans := Without.trans
  serial := hserial
  portRead := fun _ _ => .of_eq rfl
  portWrite := fun h _ => .one rfl h
  load := fun _ _ => .of_eq rfl
  store := fun h _ => .one rfl h
  place := fun _ _ _ => .of_eq rfl
  allocate := fun _ _ => .of_eq rfl
  arrivals := fun _ => .of_eq rfl
  console := fun _ _ => .of_eq rfl
  serve := fun _ irq _ _ => .one rfl (hserved irq)
  runHook := fun _ _ _ _ => .of_eq rfl
  externalIrq := fun _ _ _ => .of_eq rfl
  externalEoi := fun _ _ _ _ => .of_eq rfl

/-- The conduct of computations that acknowledge nothing. -/
def silent (X : Surroundings) [Behaviour X] (alsoStops : Stop → Prop) : Conduct (Watched X) :=
  avoiding HardwareEvent.Acknowledges (fun _ h => absurd h.1 (by decide)) (fun _ h => h) X alsoStops

/-- The conduct of computations that leave the interrupt controllers alone. -/
def uncommanding (X : Surroundings) [Behaviour X] (alsoStops : Stop → Prop) : Conduct (Watched X) :=
  avoiding HardwareEvent.Commands (fun _ h => h.elim (by decide) (by decide)) (fun _ h => h) X
    alsoStops

end Interrupts
