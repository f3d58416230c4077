import Interrupts.Proofs.Kernel.Launching
import Interrupts.Proofs.Kernel.Selection
import Interrupts.Proofs.Pit.Channel
import Interrupts.Proofs.Processor.Obedience

/-!
# The interval timer is left alone

The channel of the interval timer is programmed in one place, where the tick of the 8259 pair is
started. Whatever else happens while the controllers are set up, and while other processors are
started, tells it nothing: bytes go to other ports, and a delay only latches it. So a computation
`LeavesChannel` if it does in every state of the kernel, and this is kept by all the ways in which
computations are put together.

The proofs follow the code from the bottom up, an operation at a time, and each is a chain of its
steps. Where a conduct already covers an operation (the preparation of a processor, the commands
that are sent to it), the conduct that allows everything but bytes to the channel is used instead
of a second walk through the code.
-/

namespace Interrupts

open Boot IoApic
open Acpi (PlatformTables)

/-- **The discipline of leaving the channel alone**, whatever else becomes of the kernel. -/
def leavingChannel (X : Surroundings) [Behaviour X] : Discipline Stop (Kernel (Watched X)) where
  keeps k k' := Untold k.hardware k'.hardware
  stops _ _ _ := True
  refl := fun _ => .of_eq rfl
  trans := Untold.trans
  stops_of_keeps := fun _ _ => trivial

variable {X : Surroundings} [Behaviour X] {α β : Type}

/-- **A computation leaves the channel alone**, in whatever state it begins. -/
def LeavesChannel (x : Boot (Watched X) α) : Prop :=
  ∀ k, (leavingChannel X).Obeys k x

namespace LeavesChannel

/-- What was told to the channel by a computation that came to its end: nothing. -/
theorem untold {x : Boot (Watched X) α} {k k' : Kernel (Watched X)} {a : α}
    (hx : LeavesChannel x) (hrun : x k = .ok a k') : Untold k.hardware k'.hardware :=
  (hx k).returns hrun

/-! ## Putting computations together -/

theorem pure (a : α) : LeavesChannel (Pure.pure a : Boot (Watched X) α) :=
  fun _ => .pure a

theorem bind {x : Boot (Watched X) α} {f : α → Boot (Watched X) β} (hx : LeavesChannel x)
    (hf : ∀ a, LeavesChannel (f a)) : LeavesChannel (x >>= f) :=
  fun k => (hx k).bind fun {a k'} _ _ => hf a k'

theorem ite {p : Prop} [Decidable p] {x y : Boot (Watched X) α} (hx : LeavesChannel x)
    (hy : LeavesChannel y) : LeavesChannel (if p then x else y) :=
  fun k => .ite (fun _ => hx k) fun _ => hy k

/-- A step that may be left out. -/
theorem optional {p : Prop} [Decidable p] {x : Boot (Watched X) Unit}
    {rest : Unit → Boot (Watched X) β} (hx : LeavesChannel x)
    (hrest : ∀ u, LeavesChannel (rest u)) :
    LeavesChannel (if p then x >>= rest else rest ()) :=
  .ite (hx.bind hrest) (hrest ())

theorem throw (e : Stop) : LeavesChannel (throw e : Boot (Watched X) α) :=
  fun _ => .throw trivial

theorem of_conduct {x : Boot (Watched X) α} (h : ∀ k, (untimed X).discipline.Obeys k x) :
    LeavesChannel x :=
  fun k => ⟨fun hrun => ((h k).returns hrun).hardware, fun _ => trivial⟩

/-- A change of the kernel that does not concern the hardware. -/
theorem update {f : Kernel (Watched X) → Kernel (Watched X)}
    (h : ∀ k, (f k).hardware = k.hardware) : LeavesChannel (update f) :=
  fun k => .step rfl (.of_eq (congrArg Prod.snd (h k)))

/-- A look at the kernel. -/
theorem kernel : LeavesChannel (kernel : Boot (Watched X) (Kernel (Watched X))) :=
  fun _ => .step rfl (.of_eq rfl)

/-- A cell of the kernel is filled. -/
theorem tryInit {ε : Type} {slot : Slot (Boot (Watched X)) α}
    {initialiser : Boot (Watched X) (Except ε α)} (hlook : LeavesChannel slot.look)
    (hput : ∀ c, LeavesChannel (slot.put c)) (h : LeavesChannel initialiser) :
    LeavesChannel (slot.tryInit initialiser) :=
  hlook.bind fun _ => .ite (.pure _) <| (hput _).bind fun _ => h.bind fun r => by
    cases r with
    | ok a => exact (hput _).bind fun _ => .pure _
    | error e => exact (hput _).bind fun _ => .pure _

end LeavesChannel

namespace Boot

/-! ## Steps -/

theorem leaves_log (level : Level) (text : String) :
    LeavesChannel (log (m := Boot (Watched X)) level text) :=
  .of_conduct fun _ => Conduct.obeys_emit level text

theorem leaves_logAll (lines : List Record) :
    LeavesChannel (logAll (m := Boot (Watched X)) lines) :=
  .of_conduct fun _ => Conduct.obeys_logAll lines

theorem leaves_fatal (f : Fault) : LeavesChannel (fatal (m := Boot (Watched X)) (α := α) f) :=
  (leaves_log _ _).bind fun _ => .throw _

theorem leaves_askHardware (f : (Watched X).Hardware → α) : LeavesChannel (askHardware f) :=
  .of_conduct fun _ => Conduct.obeys_askHardware f

theorem leaves_currentApicId : LeavesChannel (currentApicId (X := Watched X)) :=
  .of_conduct fun _ => Conduct.obeys_currentApicId

theorem leaves_read8 (p : MachinePorts) (port : UInt16) :
    LeavesChannel (PortBus.read8 (m := Boot (Watched X)) p port) :=
  .of_conduct fun _ => Conduct.obeys_read8 p port

/-- A byte that the channel does not heed. -/
theorem leaves_write8 (p : MachinePorts) {port : UInt16} {value : UInt8}
    (h : ∀ c : Channel, c.step (.out port value) = c) :
    LeavesChannel (PortBus.write8 (m := Boot (Watched X)) p port value) :=
  .of_conduct fun _ => Conduct.obeys_write8 p h

theorem leaves_read32 (w : Window) (offset : UInt64) :
    LeavesChannel (RegisterBus.read32 (m := Boot (Watched X)) w offset) :=
  .of_conduct fun _ => Conduct.obeys_read32 (.inl fun h => h.1)

theorem leaves_write32 (w : Window) (offset : UInt64) (value : UInt32) :
    LeavesChannel (RegisterBus.write32 (m := Boot (Watched X)) w offset value) :=
  .of_conduct fun _ => Conduct.obeys_write32 (.inl fun h => h.1) trivial

/-! ## Delays -/

theorem leaves_readCount (p : MachinePorts) :
    LeavesChannel (Pit.readCount (m := Boot (Watched X)) p) :=
  (leaves_write8 p fun _ => rfl).bind fun _ => (leaves_read8 p _).bind fun _ =>
    (leaves_read8 p _).bind fun _ => .pure _

/-- Counting latches and reads, and programs nothing. -/
theorem leaves_countTo (p : MachinePorts) (needed : UInt32) (patience : Nat) (last : UInt16)
    (elapsed : UInt32) :
    LeavesChannel (Pit.countTo (m := Boot (Watched X)) p needed patience last elapsed) := by
  induction patience generalizing last elapsed with
  | zero => exact .ite (.throw _) (.pure _)
  | succ patience ih => exact .ite ((leaves_readCount p).bind fun _ => ih _ _) (.pure _)

/-- **A delay** only latches the channel. -/
theorem leaves_delayMs (ms : UInt32) : LeavesChannel (delayMs (X := Watched X) ms) :=
  .ite (.pure _) ((leaves_readCount _).bind fun _ => leaves_countTo _ _ _ _ _)

/-! ## The 8259 pair -/

section Pair

variable (p : Pic MachinePorts)

theorem leaves_command {port : UInt16} (value : UInt8)
    (h : ∀ c : Channel, c.step (.out port value) = c) :
    LeavesChannel (p.command (m := Boot (Watched X)) port value) :=
  (leaves_write8 _ h).bind fun _ => leaves_write8 _ fun _ => rfl

/-- The bytes for the 8259 pair go to ports of its own, and the pauses between them to another. -/
theorem leaves_remap (master slave : UInt8) :
    LeavesChannel (p.remap (m := Boot (Watched X)) master slave) :=
  (leaves_read8 _ _).bind fun _ => (leaves_read8 _ _).bind fun _ =>
    (leaves_command p _ fun _ => rfl).bind fun _ => (leaves_command p _ fun _ => rfl).bind fun _ =>
    (leaves_command p _ fun _ => rfl).bind fun _ => (leaves_command p _ fun _ => rfl).bind fun _ =>
    (leaves_command p _ fun _ => rfl).bind fun _ => (leaves_command p _ fun _ => rfl).bind fun _ =>
    (leaves_command p _ fun _ => rfl).bind fun _ => (leaves_command p _ fun _ => rfl).bind fun _ =>
    (leaves_write8 _ fun _ => rfl).bind fun _ => (leaves_write8 _ fun _ => rfl).bind fun _ =>
    (leaves_log _ _).bind fun _ => .pure _

theorem leaves_writeMasks (mask : UInt8) :
    LeavesChannel (p.writeMasks (m := Boot (Watched X)) mask) :=
  (leaves_write8 _ fun _ => rfl).bind fun _ => leaves_write8 _ fun _ => rfl

theorem leaves_disablePic : LeavesChannel (p.disable (m := Boot (Watched X))) :=
  (leaves_remap p _ _).bind fun q => (leaves_writeMasks q _).bind fun _ =>
    (leaves_log _ _).bind fun _ => .pure _

end Pair

theorem leaves_onPic {f : Pic MachinePorts → Boot (Watched X) (Pic MachinePorts)}
    (h : ∀ p, LeavesChannel (f p)) : LeavesChannel (onPic f) :=
  .bind .kernel fun _ => (h _).bind fun _ => .update fun _ => rfl

/-! ## The Local APIC -/

section LocalApic

variable (a : LocalApic Window)

theorem leaves_write (offset : UInt64) (value : UInt32) :
    LeavesChannel (a.write (m := Boot (Watched X)) offset value) :=
  leaves_write32 _ _ _

theorem leaves_read (offset : UInt64) : LeavesChannel (a.read (m := Boot (Watched X)) offset) :=
  leaves_read32 _ _

/-- Whatever is stored in registers, the counter is programmed through ports. -/
theorem leaves_enableApic (cpu : Nat) :
    LeavesChannel (a.enable (m := Boot (Watched X)) cpu) :=
  (leaves_write a _ _).bind fun _ => (leaves_write a _ _).bind fun _ =>
    (leaves_write a _ _).bind fun _ => (leaves_read a _).bind fun _ =>
    (leaves_write a _ _).bind fun _ => (leaves_write a _ _).bind fun _ =>
    (leaves_write a _ _).bind fun _ => (leaves_write a _ _).bind fun _ =>
    (leaves_write a _ _).bind fun _ => (leaves_write a _ _).bind fun _ =>
    (leaves_write a _ _).bind fun _ => (leaves_write a _ _).bind fun _ =>
    ((leaves_read a _).bind fun _ => .pure _).bind fun _ =>
    ((leaves_read a _).bind fun _ => .pure _).bind fun _ => leaves_log _ _

theorem leaves_routeLegacyPic : LeavesChannel (a.routeLegacyPic (m := Boot (Watched X))) :=
  (leaves_write a _ _).bind fun _ => (leaves_write a _ _).bind fun _ => leaves_log _ _

theorem leaves_measureWindow : LeavesChannel (a.measureWindow (delayMs (X := Watched X))) :=
  (leaves_write a _ _).bind fun _ => (leaves_write a _ _).bind fun _ =>
    (leaves_write a _ _).bind fun _ => (leaves_delayMs _).bind fun _ =>
    (leaves_read a _).bind fun _ => (leaves_write a _ _).bind fun _ => .pure _

/-- Measuring the timer only waits on the counter. -/
theorem leaves_measureTotal (left : Nat) (total : UInt64) :
    LeavesChannel (a.measureTotal (delayMs (X := Watched X)) left total) := by
  induction left generalizing total with
  | zero => exact .pure _
  | succ left ih => exact (leaves_measureWindow a).bind fun _ => ih _

/-- Arming the timer either stores its three registers or is refused. -/
theorem leaves_programPeriodic (vector : UInt8) (hz : UInt32) (rate : UInt64) :
    LeavesChannel (a.programPeriodic (m := Boot (Watched X)) vector hz rate) := by
  unfold LocalApic.programPeriodic
  cases LocalApic.countFor hz rate with
  | error e => exact .pure _
  | ok count =>
    exact (leaves_write a _ _).bind fun _ => (leaves_write a _ _).bind fun _ =>
      (leaves_write a _ _).bind fun _ => .pure _

end LocalApic

/-! ## The I/O APIC -/

section IoApic

variable (window : Window)

theorem leaves_readRegister (register : UInt8) :
    LeavesChannel (readRegister (m := Boot (Watched X)) window register) :=
  (leaves_write32 _ _ _).bind fun _ => leaves_read32 _ _

theorem leaves_writeRegister (register : UInt8) (value : UInt32) :
    LeavesChannel (writeRegister (m := Boot (Watched X)) window register value) :=
  (leaves_write32 _ _ _).bind fun _ => leaves_write32 _ _ _

theorem leaves_writePin (pin : UInt32) (e : Redirection) :
    LeavesChannel (writePin (m := Boot (Watched X)) window pin e) :=
  (leaves_writeRegister _ _ _).bind fun _ => leaves_writeRegister _ _ _

/-- Pins are masked one by one. -/
theorem leaves_maskFrom (left : Nat) (pin : UInt32) :
    LeavesChannel (maskFrom (m := Boot (Watched X)) window left pin) := by
  induction left generalizing pin with
  | zero => exact .pure _
  | succ left ih => exact (leaves_writePin _ _ _).bind fun _ => ih _

/-- Overrides are noted and logged. -/
theorem leaves_scanOverrides (entries : List Acpi.MadtEntry) (a : IoApic Window) :
    LeavesChannel (scanOverrides (m := Boot (Watched X)) entries a) := by
  induction entries generalizing a with
  | nil => exact .pure _
  | cons e entries ih =>
    unfold scanOverrides
    cases a.noteOverride e with
    | none => exact ih _
    | some noted => exact (leaves_log _ _).bind fun _ => ih _

variable {T : Type} [PlatformTables T] (platform : T) (destination : UInt8)

/-- Setting up the I/O APIC goes through its window. -/
theorem leaves_setUp (info : Acpi.IoApicInfo) :
    LeavesChannel (setUp (m := Boot (Watched X)) platform destination info window) :=
  (leaves_readRegister _ _).bind fun _ =>
    .bind (.ite (leaves_log _ _) (.pure _)) fun _ =>
    (leaves_maskFrom _ _ _).bind fun _ => (leaves_scanOverrides _ _).bind fun _ =>
    .bind (.ite (.pure _) (.throw _)) fun _ => (leaves_log _ _).bind fun _ => .pure _

/-- Windows are mapped by the paging code. -/
theorem leaves_mapDevice (paging : KernelPaging (Watched X)) (phys length : UInt64) :
    LeavesChannel (Paging.mapDevice (m := Boot (Watched X)) paging phys length) := by
  cases paging with
  | direct d => exact .pure _
  | registered c => exact leaves_askHardware _

theorem leaves_windowMap (paging : KernelPaging (Watched X)) (phys size : UInt64) :
    LeavesChannel (Window.map (m := Boot (Watched X)) paging phys size) :=
  .ite (.pure _) <| (leaves_mapDevice _ _ _).bind fun r => by
    cases r with
    | error e => exact .pure _
    | ok virt => exact .pure _

theorem leaves_mapIoApic (paging : KernelPaging (Watched X)) (info : Acpi.IoApicInfo) :
    LeavesChannel (mapIoApic paging info) :=
  .bind (.ite (.pure _) (.throw _)) fun _ => (leaves_windowMap _ _ _).bind fun r => by
    cases r with
    | ok w => exact .pure _
    | error e => exact .pure _

/-- A probe leaves the channel as mapping the window does. -/
theorem leaves_probe {map : Acpi.IoApicInfo → Boot (Watched X) (Except IoApicError Window)}
    (hmap : ∀ info, LeavesChannel (map info)) :
    LeavesChannel (probe platform destination map) := by
  refine .ite (.pure _) ?_
  split
  · refine (hmap _).bind fun r => ?_
    cases r with
    | error e => exact .pure _
    | ok window => exact leaves_setUp window platform destination _
  · exact (leaves_log _ _).bind fun _ => .pure _

end IoApic

/-! ## The setup -/

section Setup

variable {T : Type} [PlatformTables T] (platform : T) (paging : KernelPaging (Watched X))

theorem leaves_enableGlobal : LeavesChannel (enableGlobal (X := Watched X)) :=
  .bind (fun _ => .step rfl (.of_eq rfl)) fun _ =>
    .ite (.bind (fun _ => .step rfl (.of_eq rfl)) fun _ => (leaves_log _ _).bind fun _ => .pure _)
      (.pure _)

/-- Filling a cell does what its initialiser does. -/
theorem leaves_localApicSlot
    {initialiser : Boot (Watched X) (Except LocalApicError (LocalApic Window))}
    (h : LeavesChannel initialiser) :
    LeavesChannel ((localApicSlot (X := Watched X)).tryInit initialiser) :=
  .tryInit (.bind .kernel fun _ => .pure _) (fun _ => .update fun _ => rfl) h

theorem leaves_ioApicSlot {initialiser : Boot (Watched X) (Except IoApicError (IoApic Window))}
    (h : LeavesChannel initialiser) :
    LeavesChannel ((ioApicSlot (X := Watched X)).tryInit initialiser) :=
  .tryInit (.bind .kernel fun _ => .pure _) (fun _ => .update fun _ => rfl) h

/-- **The Local APIC is brought up**: found, mapped, enabled, and the 8259 pair silenced before it.
-/
theorem leaves_initLocalApic (legacyPics : Bool) :
    LeavesChannel (initLocalApic paging legacyPics) := by
  refine (leaves_askHardware _).bind fun _ => .ite ((leaves_log _ _).bind fun _ => .pure _)
    (.bind .kernel fun _ => .optional (leaves_fatal _) fun _ => (leaves_log _ _).bind fun _ =>
      leaves_enableGlobal.bind fun _ => .optional (leaves_onPic leaves_disablePic) fun _ => ?_)
  refine (leaves_localApicSlot ?_).bind fun mapped => ?_
  · refine (leaves_windowMap _ _ _).bind fun r => ?_
    cases r with
    | ok window => exact .pure _
    | error e => exact .pure _
  · match mapped with
    | .error .alreadyInitialized => exact .pure _
    | .error (.failed e) => exact .pure _
    | .ok apic =>
      exact (leaves_enableApic apic _).bind fun _ => (leaves_write apic _ _).bind fun _ =>
        .bind (.update fun _ => rfl) fun _ => (leaves_log _ _).bind fun _ =>
        (leaves_log _ _).bind fun _ => .pure _

/-- So is the I/O APIC. -/
theorem leaves_initIoApic : LeavesChannel (initIoApic platform paging) := by
  refine (leaves_log _ _).bind fun _ => leaves_currentApicId.bind fun _ =>
    (leaves_ioApicSlot (leaves_probe _ _ (leaves_mapIoApic paging))).bind fun r => ?_
  match r with
  | .error .alreadyInitialized => exact leaves_fatal _
  | .error (.failed e) => exact (leaves_log _ _).bind fun _ => .pure _
  | .ok a => exact (leaves_log _ _).bind fun _ => .pure _

/-- Either both APICs become one controller, or the pair is let through. -/
theorem leaves_pairApics (cfg : Config) (apic : LocalApic Window) :
    LeavesChannel (pairApics cfg platform paging apic) := by
  refine (leaves_initIoApic platform paging).bind fun r => ?_
  cases r with
  | error e =>
    exact (leaves_log _ _).bind fun _ => (leaves_routeLegacyPic apic).bind fun _ => .pure _
  | ok ioApic =>
    refine .bind (.bind (.tryInit (.bind .kernel fun _ => .pure _) (fun _ => .update fun _ => rfl)
      (.pure _)) fun r => ?_) fun c => ?_
    · cases r with
      | ok a => exact .pure _
      | error e => exact .pure _
    · cases c with
      | some c => exact .pure _
      | none => exact (leaves_routeLegacyPic apic).bind fun _ => .pure _

theorem leaves_changeModel (model : Acpi.InterruptModel) :
    LeavesChannel (changeModel (X := Watched X) platform model) :=
  (leaves_logAll _).bind fun _ => .pure _

/-- **Trying the APICs** leaves the channel alone, whatever becomes of it. -/
theorem leaves_tryApics (cfg : Config) : LeavesChannel (tryApics cfg platform paging) := by
  refine .ite ((leaves_log _ _).bind fun _ => .pure _) <|
    (leaves_askHardware _).bind fun _ => .ite ((leaves_log _ _).bind fun _ => .pure _) <|
    (leaves_changeModel _ _).bind fun r => ?_
  obtain ⟨accepted, platform⟩ := r
  refine .ite ((leaves_log _ _).bind fun _ => .pure _) <|
    (leaves_initLocalApic _ _).bind fun r => ?_
  cases r with
  | error e => exact (leaves_log _ _).bind fun _ => .pure _
  | ok apic => exact (leaves_pairApics _ _ _ _).bind fun _ => .pure _

/-- Who is in charge is kept in the kernel. -/
theorem leaves_setActive (c : ActiveController (Watched X)) : LeavesChannel (setActive c) := by
  refine .bind ?_ fun _ => (leaves_log _ _).bind fun _ => .update fun _ => rfl
  cases c with
  | pic => exact .pure _
  | apic c => exact .pure _
  | external c => exact leaves_askHardware _

/-- The timer is calibrated against the counter as it is. -/
theorem leaves_calibrateTimer : LeavesChannel (calibrateTimer (X := Watched X)) := by
  refine .bind .kernel fun k => ?_
  cases k.localApic.get? with
  | none => exact .pure _
  | some apic =>
    refine .bind ((leaves_measureTotal apic _ _).bind fun _ => .pure _) fun r => ?_
    cases r with
    | error e => exact .pure _
    | ok rate =>
      exact .optional (leaves_log _ _) fun _ => .bind (.update fun _ => rfl) fun _ =>
        (leaves_log _ _).bind fun _ => .pure _

/-- Starting the tick of the Local APIC concerns its own timer. -/
theorem leaves_startPeriodic (vector : UInt8) (hz : UInt32) :
    LeavesChannel (startPeriodic (X := Watched X) vector hz) := by
  refine .bind .kernel fun k => ?_
  cases k.localApic.get? with
  | none => exact .pure _
  | some apic =>
    refine .bind .kernel fun _ => (leaves_programPeriodic apic _ _ _).bind fun r => ?_
    cases r with
    | error e => exact .pure _
    | ok count => exact (leaves_log _ _).bind fun _ => .pure _

theorem leaves_logTimer (r : Except TimerError Unit) :
    LeavesChannel (logTimer (X := Watched X) r) := by
  cases r with
  | ok u => exact .pure _
  | error e => exact leaves_log _ _

/-- **Starting the tick of the APICs** leaves the channel alone. -/
theorem leaves_startApicTick (irqBase : UInt8) (hz : UInt32) :
    LeavesChannel (startApicTick (X := Watched X) irqBase hz) := by
  refine leaves_calibrateTimer.bind fun r => ?_
  cases r with
  | error e => exact leaves_logTimer _
  | ok rate => exact (leaves_startPeriodic _ _).bind fun r => leaves_logTimer r

/-- Handlers are installed in the registry. -/
theorem leaves_installLogged (r : Registry (KernelHandler (Watched X))) (irq : UInt8)
    (handler : KernelHandler (Watched X)) (cpu : Option Nat) :
    LeavesChannel (r.installLogged (m := Boot (Watched X)) irq handler cpu) := by
  unfold Registry.installLogged
  cases r.install irq handler cpu with
  | error e => exact (leaves_log _ _).bind fun _ => .pure _
  | ok installed => exact (leaves_log _ _).bind fun _ => .pure _

theorem leaves_installHandler (irq : UInt8) (handler : KernelHandler (Watched X))
    (cpu : Option Nat) : LeavesChannel (installHandler irq handler cpu) :=
  .bind .kernel fun k => (leaves_installLogged k.registry irq handler cpu).bind fun _ =>
    .bind (.update fun _ => rfl) fun _ => .pure _

omit [PlatformTables T] in
/-- **Settling** leaves the channel alone. -/
theorem leaves_settle (cfg : Config) (reply : IrqMode × T) :
    LeavesChannel (settle (X := Watched X) cfg reply) := by
  refine .bind (.update fun _ => rfl) fun _ => (leaves_installHandler _ _ _).bind fun r => ?_
  cases r with
  | ok id => exact (leaves_log _ _).bind fun _ => .pure _
  | error e => exact (leaves_log _ _).bind fun _ => (leaves_log _ _).bind fun _ => .pure _

end Setup

/-! ## Bring-up -/

section BringUp

theorem untimed_unhindered : (untimed X).Unhindered where
  store := fun _ _ => trivial
  unsteady := fun h => h

variable (l : Launcher Window MachinePorts)

/-- Bring-up asks for nothing else. -/
theorem leaves_permitsAll (cfg : BringUpConfig) : (leavingChannel X).PermitsAll l cfg where
  look _ := .step rfl (.of_eq rfl)
  line level text := leaves_log level text
  one {_ s _ i p} _ _ _ := by
    have hprepare : LeavesChannel (l.prepare (m := Boot (Watched X)) i p.apicId) :=
      .of_conduct fun _ => Conduct.obeys_prepare untimed_unhindered l i p.apicId
    have hinit : LeavesChannel (l.sendInit (m := Boot (Watched X)) p.apicId) :=
      .of_conduct fun _ => Conduct.obeys_sendInit untimed_unhindered l p.apicId
    have hstartup : LeavesChannel (l.sendStartup (m := Boot (Watched X)) p.apicId cfg.startPage) :=
      .of_conduct fun _ => Conduct.obeys_sendStartup untimed_unhindered l p.apicId cfg.startPage
    have hpermits : (leavingChannel X).Permits l cfg i p.apicId :=
      { look := fun _ => .step rfl (.of_eq rfl)
        mark := fun _ _ _ => .step rfl (.of_eq rfl)
        line := fun level text => leaves_log level text
        sendInit := hinit
        sendStartup := hstartup
        delay := fun us => leaves_delayMs (Launcher.milliseconds us)
        relax := fun _ => .pure _ }
    exact hpermits.obeys_startOne hprepare s

theorem leaves_discoverHere (boot : UInt32) (others : List UInt32) :
    LeavesChannel (ProcessorTable.discoverHere boot others : Boot (Watched X) Nat) :=
  .bind (fun _ => .step rfl (.of_eq rfl)) fun _ => .bind (fun _ => .step rfl (.of_eq rfl)) fun _ =>
    (leaves_logAll _).bind fun _ => .pure _

variable (paging : KernelPaging (Watched X))

/-- The page of the trampoline is a matter of memory. -/
theorem leaves_installTrampoline : LeavesChannel (installTrampoline paging) := by
  unfold installTrampoline
  dsimp only
  cases Trampoline.checkImage (Behaviour.image (Watched X)).bytes.length with
  | error e => exact .pure _
  | ok _ =>
    refine .bind (.of_conduct fun _ => Conduct.obeys_identityMap _ _ _) fun r => ?_
    cases r with
    | error e => exact (leaves_log _ _).bind fun _ => .pure _
    | ok _ =>
      refine .bind (.of_conduct fun _ => Conduct.obeys_check untimed_unhindered _) fun r => ?_
      cases r with
      | error e => exact .pure _
      | ok _ =>
        exact .bind (.of_conduct fun _ => Conduct.obeys_stepHardware fun _ => .of_eq rfl) fun _ =>
          (leaves_log _ _).bind fun _ => .pure _

theorem leaves_removeTrampoline : LeavesChannel (removeTrampoline paging) :=
  .bind (.of_conduct fun _ => Conduct.obeys_unmap _ _ _) fun r => by
    cases r with
    | error e => exact leaves_log _ _
    | ok _ => exact .pure _

/-- What the processors have in common is read off the running one. -/
theorem leaves_launchTemplate : LeavesChannel (launchTemplate (X := Watched X)) := by
  refine (leaves_askHardware _).bind fun root => ?_
  dsimp only
  cases Trampoline.checkPageTables (root &&& pageTableMask) with
  | error e => exact leaves_fatal _
  | ok _ => exact (leaves_askHardware _).bind fun _ => .pure _

/-- **No processor is started with the help of another divisor**: the delays of the sequence wait on
the counter as it was programmed. -/
theorem leaves_launchAll (cfg : Config) (apic : LocalApic Window) (blockAddress : UInt64) :
    LeavesChannel (launchAll cfg paging apic blockAddress) := by
  refine leaves_launchTemplate.bind fun _ => .bind (leaves_permitsAll _ _).obeys_run fun _ =>
    .bind .kernel fun k => ?_
  cases k.processors.ensureQuiescent with
  | error e => exact leaves_fatal _
  | ok _ => exact (leaves_removeTrampoline paging).bind fun _ => .pure _

/-- **Starting the other processors** leaves the channel alone. -/
theorem leaves_initProcessors {T : Type} [PlatformTables T] (platform : T) :
    LeavesChannel (initProcessors platform paging) := by
  have hconfig : LeavesChannel (currentConfig (X := Watched X)) := .bind .kernel fun _ => .pure _
  refine hconfig.bind fun cfg => .ite ((leaves_log _ _).bind fun _ => .pure _)
    (.bind .kernel fun k => ?_)
  cases k.localApic.get? with
  | none => exact (leaves_log _ _).bind fun _ => .pure _
  | some apic =>
    refine leaves_currentApicId.bind fun _ => (leaves_discoverHere _ _).bind fun _ =>
      (leaves_log _ _).bind fun _ => .ite ((leaves_log _ _).bind fun _ => .pure _)
        ((leaves_installTrampoline paging).bind fun r => ?_)
    cases r with
    | ok blockAddress => exact leaves_launchAll paging _ apic blockAddress
    | error e =>
      cases e with
      | trampolineTooLarge size => exact leaves_fatal _
      | _ => exact (leaves_log _ _).bind fun _ => .pure _

end BringUp

end Boot

end Interrupts
