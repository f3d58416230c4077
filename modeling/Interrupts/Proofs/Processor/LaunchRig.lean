import Interrupts.Proofs.Processor.Block
import Interrupts.Proofs.Processor.Obedience
import Interrupts.Proofs.Processor.Rig

/-!
# Launching processors against any world

The kernel's own hardware side of bring-up runs here against a `LaunchWorld`, which decides how each
access is answered and which processors raise their flags meanwhile. It sees the table and the
trampoline page, as a processor does that runs from the page. An access may also stop everything.

The scene keeps the page, and a journal: what was done at each moment, and the table and the page at
that time. A command counts as sent when the low half of the command register is written, with
whatever the high half holds then.
-/

namespace Interrupts

/-- **A world around bring-up**, with a memory of type `W`. -/
class LaunchWorld (W : Type) where
  read : (offset : UInt64) → ProcessorTable → Bytes → W → ApReply W (Except Stop UInt32)
  write : (offset : UInt64) → (value : UInt32) → ProcessorTable → Bytes → W →
    ApReply W (Except Stop Unit)
  readPort : (port : UInt16) → ProcessorTable → Bytes → W → ApReply W (Except Stop UInt8)
  writePort : (port : UInt16) → (value : UInt8) → ProcessorTable → Bytes → W →
    ApReply W (Except Stop Unit)
  /-- The address of fresh memory, or `none` when there is no more. -/
  allocate : (size : Nat) → ProcessorTable → Bytes → W → ApReply W (Option UInt64)
  /-- Some time passes before the table is looked at. -/
  look : ProcessorTable → Bytes → W → ApReply W Unit

/-- **What is done at a moment.** -/
inductive LaunchAct where
  /-- Memory for a stack is asked for. -/
  | stack (answer : Option UInt64)
  /-- A command is sent. -/
  | command (c : IpiCommand)
  /-- Any other access, or a look at the table. -/
  | other

/-- **A moment**: what is done, and the table and the page at that time. -/
structure LaunchMoment where
  act : LaunchAct
  table : ProcessorTable
  page : Bytes

/-- **The world's memory, the table, the trampoline page, and what was done so far.** -/
structure LaunchScene (W : Type) where
  world : W
  table : ProcessorTable
  page : Bytes
  /-- The high half of the command register. -/
  high : UInt32 := 0
  journal : List LaunchMoment := []

/-- The monad of bring-up in a world. -/
abbrev LaunchM (W : Type) := EStateM Stop (LaunchScene W)

namespace LaunchM

variable {W α : Type}

/-- The scene after something was done. -/
def pass (act : LaunchAct) (r : ApReply W α) (s : LaunchScene W) : LaunchScene W :=
  { s with
    world := r.world
    table := r.raised.foldl ProcessorTable.markStarted s.table
    journal := s.journal ++ [⟨act, s.table, s.page⟩] }

/-- An access that the world answers. -/
def ask (act : LaunchAct) (reply : ProcessorTable → Bytes → W → ApReply W (Except Stop α)) :
    LaunchM W α := fun s =>
  let r := reply s.table s.page s.world
  match r.answer with
  | .ok a => .ok a (pass act r s)
  | .error e => .error e (pass act r s)

/-- The page after bytes were placed somewhere in memory. -/
def placed (page : Bytes) (address : UInt64) (bytes : Bytes) : Bytes :=
  if address < Trampoline.physAddress then
    page.overwrite 0 (bytes.drop (Trampoline.physAddress - address).toNat)
  else page.overwrite (address - Trampoline.physAddress).toNat bytes

variable [LaunchWorld W]

instance {R : Type} : RegisterBus R (LaunchM W) where
  read32 _ offset := ask .other (LaunchWorld.read offset)
  write32 _ offset value := fun s =>
    if offset = LocalApic.commandLow then
      ask (.command { low := value, high := s.high }) (LaunchWorld.write offset value) s
    else if offset = LocalApic.commandHigh then
      ask .other (LaunchWorld.write offset value) { s with high := value }
    else ask .other (LaunchWorld.write offset value) s

instance {P : Type} : PortBus P (LaunchM W) where
  read8 _ port := ask .other (LaunchWorld.readPort port)
  write8 _ port value := ask .other (LaunchWorld.writePort port value)

instance : StackSource (LaunchM W) where
  allocate size := fun s =>
    let r := LaunchWorld.allocate size s.table s.page s.world
    .ok r.answer (pass (.stack r.answer) r s)

omit [LaunchWorld W] in
instance : PhysicalMemory (LaunchM W) where
  fetch address length := fun s =>
    .ok ((s.page.drop (address - Trampoline.physAddress).toNat).take length) s
  place address bytes := fun s => .ok () { s with page := placed s.page address bytes }

instance : Logger (LaunchM W) where
  log _ _ := pure ()

instance : MonadStateOf ProcessorTable (LaunchM W) where
  get := fun s =>
    let s' := pass .other (LaunchWorld.look s.table s.page s.world) s
    .ok s'.table s'
  set t := fun s => .ok ⟨⟩ { s with table := t }
  modifyGet f := fun s =>
    let (a, t) := f s.table
    .ok a { s with table := t }

/-- The scene after a look at the table. -/
abbrev looked (s : LaunchScene W) : LaunchScene W :=
  pass .other (LaunchWorld.look s.table s.page s.world) s

/-- **A look at the table** passes time first. -/
theorem look_bind (f : ProcessorTable → LaunchM W α) (s : LaunchScene W) :
    (getThe ProcessorTable >>= f) s = f (looked s).table (looked s) :=
  rfl

/-- **The scene that is left**, whether a computation returned or was stopped. -/
def scene : EStateM.Result Stop (LaunchScene W) α → LaunchScene W
  | .ok _ s => s
  | .error _ s => s

end LaunchM

end Interrupts
