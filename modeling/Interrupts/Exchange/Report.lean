import Interrupts.Acpi.Platform
import Interrupts.Config
import Interrupts.Exception.Table
import Interrupts.Exchange.Datum
import Interrupts.GateTable
import Interrupts.IoApic.Driver
import Interrupts.Irq.Dispatch
import Interrupts.LocalApic.Timer
import Interrupts.OneShot
import Interrupts.Pic
import Interrupts.Processor.BringUp
import Interrupts.Processor.Trampoline

/-!
# Reports of the library's values

A structure is reported as a record of its fields, or as a list where the meaning follows from the
position. Enumerations are reported by their names. A frame only shows what is not zero.
-/

namespace Interrupts

instance : Reported HandlerId := ⟨fun i => toString i⟩

instance : Reported Frame where
  report f := .record (f.nonzero.map fun v => (v.1, v.2))

instance : Reported Gate where
  report g := .record
    [ ("target", g.target), ("selector", g.selector.bits), ("kind", g.kind.name),
      ("privilege", g.privilege.name), ("present", g.present), ("ist", g.ist) ]

instance : Reported Config where
  report c := .record
    [ ("pic_master", c.masterBase), ("pic_slave", c.slaveBase), ("force_pic", c.forcePic),
      ("timer_hz", c.timerHz), ("smp", c.smp), ("smp_spins", c.smpSpins),
      ("ipi_spins", c.ipiSpins), ("log_level", c.logLevel.name) ]

instance : Reported FatalReport where
  report r := .record
    [ ("vector", r.vector), ("name", r.name), ("cpu", r.cpu), ("error_code", r.errorCode),
      ("rip", r.rip), ("reason", r.reason.name) ]

instance : Reported ExceptionOutcome where
  report
    | .handled => "Handled"
    | .fatal r => r

/-! ## Firmware tables -/

namespace Acpi

instance : Reported IoApicInfo where
  report i := .list [i.id, i.address, i.gsiBase]

instance : Reported MadtEntry where
  report
    | .localApic i => .record
        [ ("lapic", .list [i.processorId, i.apicId, i.flags]), ("usable", i.isUsable) ]
    | .ioApic i => .record [("ioapic", i)]
    | .interruptOverride o => .record
        [ ("iso", .list [o.bus, o.irq, o.gsi, o.flags]), ("polarity", o.polarity.name),
          ("trigger", o.triggerMode.name) ]
    | .unknown t => .record [("unknown", t)]

instance : Reported Madt where
  report t := .record
    [ ("lapic_address", t.lapicAddress), ("flags", t.flags), ("legacy", t.hasLegacyPics),
      ("entries", t.entries) ]

/-- The fields that a table's header adds to its report. -/
def headerFields (bs : Bytes) : Fields :=
  match readHeader? bs with
  | none => []
  | some h =>
    [ ("revision", h.revision), ("oem", .ofBytes h.oem), ("oem_revision", h.oemRevision) ]

instance : Reported Table where
  report t := .record
    ([ ("at", (t.phys : Datum)), ("len", t.bytes.length), ("sum", checksum t.bytes) ] ++
      headerFields t.bytes)

end Acpi

/-! ## Controllers -/

instance : Reported Redirection where
  report e := .record
    [ ("raw", e.raw), ("low", e.low), ("high", e.high), ("vector", e.vector),
      ("delivery", e.deliveryMode.name), ("logical", e.isLogical), ("polarity", e.polarity.name),
      ("trigger", e.trigger.name), ("masked", e.isMasked), ("pending", e.isPending),
      ("remote_irr", e.remoteIrr), ("destination", e.destination) ]

instance : Reported Override where
  report o := .list [o.gsi, o.polarity.name, o.trigger.name]

instance {R : Type} : Reported (IoApic R) where
  report a := .record
    [ ("id", a.id), ("gsi_base", a.gsiBase), ("version", a.version), ("max", a.pins),
      ("dest", a.destination) ]

instance : Reported IpiCommand where
  report c := .record
    [("low", c.low), ("high", c.high), ("dest", c.destination), ("vector", c.vector)]

instance : Reported IrqStats where
  report s := .list [s.count.toNat, s.unhandled.toNat, s.handlers]

/-! ## Processors -/

instance : Reported LaunchParams where
  report p := .list [p.cr3, p.stackTop, p.entry, p.cpuIndex, p.gdtLimit, p.gdtBase]

instance : Reported BringUp where
  report
    | .singleProcessor => "SingleProcessor"
    | .completed s => .list [s.processors, s.started, s.abandoned]

instance : Reported ProcessorTable where
  report t := .list (t.cpus.zipIdx.map fun (p, index) =>
    .list [index, p.apicId, p.state.name, p.started])

/-- Whether anything may still run from the trampoline page, in words. -/
def quiescence : Except BringUpError Unit → String
  | .ok () => "Ok(())"
  | .error e => s!"Err({e})"

end Interrupts
