import Interrupts.Exchange.Description
import Interrupts.Sim.Board
import Interrupts.Sim.Processors

/-!
# Descriptions of boards, scripts and handlers

Besides whole boards, rigs and scripts, changes of a device can be described: what a description
leaves out stays as it is.
-/

namespace Interrupts.Sim

instance : Described FaultCase where
  read d := match d.toText with
    | "count_rax" => .countRax
    | "give_up" => .giveUp
    | "clobber" => .clobber
    | "remove_self" => .removeSelf
    | "swap_self" => .swapSelf
    | _ => .resolve

instance : Described ApScript where
  read d :=
    { apicId := d.get "id"
      prepareError := d.get "prepare_err"
      initFailures := d.get "init_fail"
      startupFailures := d.get "startup_fail"
      startOnInit := d.get "start_on_init"
      startOnStartup := d.get "start_on_startup"
      startOnDelay := d.get "start_on_delay"
      startOnRelax := d.get "start_on_relax" }

instance : Described MapFailure where
  read d := { phys := d.get "phys", length := d.get "len", error := d.get "err" }

/-! ## Devices -/

instance : Described SelectWindow where
  read d := (d.get "regs" : List (UInt8 × UInt32)).foldl (fun w r => w.preset r.1 r.2)
    { floating := d.get "floating" }

/-- A page with some registers changed. -/
def RegisterPage.changed (p : RegisterPage) (d : Datum) : RegisterPage :=
  let regs : List (UInt64 × UInt32) := d.get "regs"
  { regs.foldl (fun p r => p.preset r.1 r.2) p with stuck := d.getD "stuck" p.stuck }

instance : Described RegisterPage := ⟨RegisterPage.changed {}⟩

/-- A machine of ports with some parts changed. New steps of the counter start with the first. -/
def PortMachine.changed (m : PortMachine) (d : Datum) : PortMachine :=
  let ports : List (UInt16 × UInt8) := d.get "ports"
  let steps : Option (List UInt16) := d.get "pit_steps"
  { ports.foldl (fun m p => m.store p.1 p.2) m with
    inService := d.getD "isr" m.inService
    requests := d.getD "irr" m.requests
    count := d.getD "pit_count" m.count
    steps := (steps.map List.toArray).getD m.steps
    taken := if steps.isSome then 0 else m.taken
    busy := d.getD "uart_busy" m.busy
    busyLeft := d.getD "uart_busy" m.busyLeft }

instance : Described PortMachine := ⟨PortMachine.changed {}⟩

instance : Described Firmware where
  read d :=
    let pieces : List (UInt64 × Datum) := d.get "put"
    pieces.foldl (fun f p => f.place p.1 p.2.toBytes)
      { base := d.get "base", memory := List.replicate (d.get "size") 0, failures := d.get "fail" }

instance : Described Region where
  read d :=
    let pieces : List (Nat × Datum) := d.get "put"
    pieces.foldl (fun r p => r.write p.1 p.2.toBytes) (.zeroed (d.get "phys") (d.get "size"))

instance : Described Board where
  read d :=
    { ports := Described.read d
      msrs := d.get "msrs"
      cr3 := d.getD "cr3" 0x1000
      regions := d.get "mem"
      mapFailures := d.get "map_fail"
      identityError := d.get "identity_err"
      unmapError := d.get "unmap_err"
      responsive := d.get "responsive" }

/-! ## Platforms -/

section Platforms

variable {m : Type → Type} [Monad m] [MonadExceptOf Stop m] [Logger m]

/-- The platform of a table's bytes, if there are any and they are a table. -/
def describedMadt (d : Datum) : m Acpi.MadtPlatform := do
  if (d.field "madt").isAbsent then pure .absent
  else do pure { madt := ← Acpi.Madt.accept (d.field "madt").toBytes }

instance : Described ListedPlatform where
  read d :=
    let entry (e : Datum) : UInt8 × Acpi.MadtEntry :=
      let meaning : Acpi.MadtEntry := Described.read e
      (e.getD "as" meaning.entryType, meaning)
    { entries := (d.field "list").items.map entry
      supported := d.getD "supported" true
      refuse := d.get "refuse" }

/-- A platform, given as a list of entries or by a table's bytes. -/
def describedPlatform (d : Datum) : m AnyPlatform := do
  if d.has "list" then pure (.listed (Described.read d))
  else do pure (.madt (← describedMadt d))

end Platforms

/-! ## Lines -/

/-- A handler; `key` tells its calls from those of others. -/
def LineCase.described (key : Nat) (d : Datum) : LineCase :=
  match (d.get "kind" : String) with
  | "claim" => .claim (d.get "tag")
  | "decline" => .decline (d.get "tag")
  | "anon" => .anonymous
  | "tick" => .tick
  | "bsp_tick" => .tick
  | "cpu_tick" => .tick
  | _ => .probe key (d.get "tag") (d.get "add") (d.get "verdicts" : List Bool).toArray

/-- A handler of the kernel: the tick, told that it runs on one of two processors or looking for
itself, or a handler of the rig. -/
def kernelHandler (key : Nat) (d : Datum) : KernelHandler Board.surroundings :=
  match (d.get "kind" : String) with
  | "tick" => .tick { hz := 100, source := .told 1 }
  | "bsp_tick" => .tick { hz := 100, source := .told 0 }
  | "cpu_tick" => .tick { hz := 100 }
  | _ => .device (.described key d)

/-- A recording controller with some parts changed. A fixed answer can be no line at all, and `off`
takes it back. -/
def RecordingController.changed (c : RecordingController) (d : Datum) : RecordingController :=
  { c with
    base := d.getD "base" c.base
    lines := d.getD "lines" c.lines
    fixed :=
      if d.has "fixed" then
        if (d.field "fixed").toText = "off" then none else some (d.get "fixed")
      else c.fixed }

/-- **A controller and the devices behind it**, which replace those of the rig. -/
def RigController.described (d : Datum) : BenchM LineRig RigController := do
  let io := d.field "ioapic"
  BenchM.stepDevice fun r => { r with
    recording := RecordingController.changed {} d
    ports := Described.read d
    vectors := ({} : LineRig).vectors
    page := d.get "lapic"
    window := io.get "window" }
  match (d.get "kind" : String) with
  | "pic" => pure .pic
  | "apic" => do
    let platform ← describedPlatform (io.field "platform")
    let c ← probeApics platform (io.get "dest") (d.get "base")
    BenchM.stepDevice LineRig.forget
    pure c
  | _ => pure .recording

end Interrupts.Sim
