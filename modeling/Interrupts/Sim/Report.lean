import Interrupts.Exchange.Report
import Interrupts.Sim.Board
import Interrupts.Sim.Processors

/-!
# Reports of what a bench recorded

Accesses are reported in order, as short lists that start with what was done.
-/

namespace Interrupts.Sim

instance : Reported WindowEvent where
  report
    | .read register value => .list ["r", register, value]
    | .write register value => .list ["w", register, value]

instance : Reported IoEvent where
  report
    | .read port value => .list ["r", port, value]
    | .write port value => .list ["w", port, value]
    | .loadIdt => .list ["lidt"]
    | .readMsr register value => .list ["rdmsr", register, value]
    | .writeMsr register value => .list ["wrmsr", register, value]
    | .halt => .list ["hlt"]

instance : Reported ControllerCall where
  report
    | .eoi vector irq => .list ["eoi", vector, irq]
    | .mask irq => .list ["mask", irq]
    | .unmask irq => .list ["unmask", irq]

/-- A register page is reported by the writes to it. -/
instance : Reported RegisterPage where
  report p := .list (p.writes.toList.map fun w => .list [w.1.toNat, w.2])

/-- The firmware memory is reported by the requests to map it. -/
instance : Reported Firmware where
  report f := .list (f.maps.toList.map fun m => .list [m.1, m.2.toNat])

/-- The state of a processor as the table told it. -/
def Sighting.stateName (s : Sighting) : Option String :=
  s.state.map ProcessorState.name

/-- Whether the table knew of anything in flight. -/
def Sighting.quiescence (s : Sighting) : String :=
  Interrupts.quiescence s.quiescent

instance : Reported ApCall where
  report
    | .prepare id index seen => .list ["prepare", id, index, seen.stateName, seen.quiescence]
    | .init id nth seen => .list ["init", id, nth, seen.stateName, seen.quiescence]
    | .startup id nth page seen =>
      .list ["startup", id, (nth, page), seen.stateName, seen.quiescence]
    | .delay us => .list ["delay", us]
    | .relax steps => .list ["relax", steps]

/-- What the handlers of a rig are reported by: a line for each call. -/
instance : Reported HandlerRig where
  report h := .list (h.trace.toList.map fun t => .list [t.1, t.2.1, t.2.2])

/-- What a controller of a rig was told, or what it did to its devices. -/
def LineRig.activity (r : LineRig) : RigController → Datum
  | .recording => r.recording.calls
  | .pic => r.ports.events
  | .apic _ => .record [("lapic", r.page), ("ioapic", r.window.events)]

/-- A region is reported by the words in it that are not zero. -/
instance : Reported Region where
  report r := r.words

end Interrupts.Sim
