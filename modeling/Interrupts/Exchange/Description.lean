import Interrupts.Acpi.Platform
import Interrupts.Config
import Interrupts.Exchange.Datum
import Interrupts.Frame
import Interrupts.Gate
import Interrupts.IoApic.Redirection
import Interrupts.LocalApic.Command
import Interrupts.Memory.Paging
import Interrupts.Processor.BringUp
import Interrupts.Processor.Trampoline

/-!
# Descriptions of the library's values

Enumerations are described by the names they are reported with, and structures by records. A field
that is left out has the value that the description of each type says.
-/

namespace Interrupts

instance : Described Level := ⟨Described.byName Level.all Level.name .standard⟩

instance : Described PagingError where
  read := Described.byName [.addressSpaceExhausted, .notIdentityMapped] toString .invalidRange

instance : Described GateKind := ⟨Described.byName [.trap] GateKind.name .interrupt⟩

instance : Described Ring := ⟨fun d => .ofBits (Described.read d)⟩

instance : Described Selector := ⟨fun d => ⟨Described.read d⟩⟩

instance : Described Budget := ⟨fun d => ⟨Described.read d⟩⟩

instance : Described Acpi.InterruptModel := ⟨Described.byName [.apic] Acpi.InterruptModel.name .pic⟩

instance : Described DeliveryMode where
  read := Described.byName [.lowestPriority, .smi, .nmi, .init, .extInt] DeliveryMode.name .fixed

/-- The polarity and the trigger mode of a pin are described by a switch for the one that the
legacy bus does not have. -/
instance : Described PinPolarity where
  read d := if d.isSet then .activeLow else .activeHigh

instance : Described PinTrigger where
  read d := if d.isSet then .level else .edge

/-- A bring-up error of which only the name is known; the one about the trampoline's size is that of
an image one byte too large. -/
instance : Described BringUpError where
  read := Described.byName [.outOfMemory, .noIdentityWindow] toString
    (.trampolineTooLarge (Trampoline.pageSize + 1))

/-- A frame is described by the values that are not zero. -/
instance : Described Frame := ⟨fun d => .ofValues d.get⟩

/-- A gate entry is described by its bytes, or as the zero entry, or by what it means; the stack
index can be given in addition. -/
instance : Described GateEntry where
  read d :=
    let plain : GateEntry :=
      if d.has "bytes" then .ofBytes (d.field "bytes").toBytes
      else if (d.field "zero").isSet then .zero
      else .new (d.get "target") (d.getD "selector" .kernelCode) (d.get "kind") (d.get "ring")
        (d.get "present")
    if d.has "ist" then plain.withIst (d.get "ist") else plain

/-- A selector is described by its packed value or by an index, and a privilege level. -/
def Selector.described (d : Datum) : Selector :=
  let plain := d.getD "raw" (gdt (d.get "index"))
  if d.has "rpl" then plain.withRpl (d.get "rpl") else plain

instance : Described Acpi.MadtEntry where
  read d :=
    match (d.field "lapic").items, (d.field "ioapic").items, (d.field "iso").items with
    | [processor, apic, flags], _, _ =>
      .localApic ⟨Described.read processor, Described.read apic, Described.read flags⟩
    | _, [id, address, base], _ =>
      .ioApic ⟨Described.read id, Described.read address, Described.read base⟩
    | _, _, [bus, irq, gsi, flags] =>
      .interruptOverride
        ⟨Described.read bus, Described.read irq, Described.read gsi, Described.read flags⟩
    | _, _, _ => .unknown (d.get "unknown")

instance : Described Redirection where
  read d := match (d.get "from" : String) with
    | "masked" => .masked
    | "fixed" => .fixed (d.get "vector") (d.get "dest")
    | "halves" => .ofHalves (d.get "low") (d.get "high")
    | _ => ⟨d.get "raw"⟩

instance : Described IpiDelivery where
  read d := match d.toText with
    | "Nmi" => .nmi
    | "Init" => .init
    | "Startup" => .startup
    | _ => .fixed

/-- A command is described by what it is for, or else by its parts. -/
instance : Described IpiCommand where
  read d :=
    match (d.get "make" : String) with
    | "init" => .init (d.get "dest")
    | "startup" => .startup (d.get "dest") (d.get "vector")
    | "fixed" => .fixed (d.get "dest") (d.get "vector")
    | _ => .new (d.get "dest") (d.get "delivery") (d.get "vector") (d.get "flags")

instance : Described LaunchParams where
  read d :=
    { cr3 := d.get "cr3"
      stackTop := d.get "stack_top"
      entry := d.get "entry"
      cpuIndex := d.get "cpu_index"
      gdtLimit := d.get "gdt_limit"
      gdtBase := d.get "gdt_base" }

/-- The pacing of bring-up; on a bench the wait for a processor is short unless said otherwise. -/
instance : Described BringUpConfig where
  read d :=
    let usual : BringUpConfig := {}
    { startPage := d.getD "page" usual.startPage
      initDelay := d.getD "init_us" usual.initDelay
      startupDelay := d.getD "startup_us" usual.startupDelay
      startupWait := d.getD "spins" ⟨16⟩
      secondStartup := d.getD "second" usual.secondStartup }

instance : Described DirectMap where
  read d := { offset := d.get "offset", identityLimit := d.get "limit" }

end Interrupts
