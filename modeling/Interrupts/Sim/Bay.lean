import Interrupts.Sim.Board

/-!
# A bay for bring-up

Bring-up through the Local APIC is tried out apart from the rest of the core: with a processor
table, a page of Local APIC registers and a trampoline page of its own. Delays are still timed by
the board's interval timer, and log lines go where the core's go.
-/

namespace Interrupts.Sim

/-- **A bay.** -/
structure Bay where
  table : ProcessorTable := {}
  registers : RegisterPage := {}
  /-- An image in which every byte is the same, so that unwritten parameters are recognised. -/
  image : Bytes := List.replicate 128 0x90

/-- The monad of a bay on a board. -/
abbrev BayM := StateT Bay (Boot Board.surroundings)

namespace BayM

/-- The Local APIC's registers of a bay. -/
structure Registers where

instance : RegisterBus Registers BayM where
  read32 _ offset := modifyGetThe Bay fun b =>
    let (value, registers) := RegisterPage.read offset b.registers
    (value, { b with registers })
  write32 _ offset value := modifyThe Bay fun b =>
    { b with registers := RegisterPage.write offset value b.registers }

instance : PortBus MachinePorts BayM where
  read8 ports port := liftM (PortBus.read8 ports port : Boot Board.surroundings UInt8)
  write8 ports port value := liftM (PortBus.write8 ports port value : Boot Board.surroundings Unit)

instance : Logger BayM where
  log level text := liftM (log level text : Boot Board.surroundings Unit)

instance : StackSource BayM where
  allocate size := liftM (StackSource.allocate size : Boot Board.surroundings (Option UInt64))

instance : PhysicalMemory BayM where
  fetch address length := do
    pure (((← getThe Bay).image.drop address.toNat).take length)
  place address bytes := modifyThe Bay fun b =>
    { b with image := b.image.overwrite address.toNat bytes }

instance : MonadStateOf ProcessorTable BayM where
  get := do pure (← getThe Bay).table
  set t := modifyThe Bay fun b => { b with table := t }
  modifyGet f := modifyGetThe Bay fun b =>
    let (a, t) := f b.table
    (a, { b with table := t })

end BayM

namespace Bay

/-- Where the block of parameters lies in the image. -/
def paramsOffset : UInt64 := 40

/-- The parameters in the image. -/
def params (b : Bay) : LaunchParams :=
  Trampoline.readParams b.image paramsOffset

/-- The hardware side of bring-up in a bay. -/
def launcher (budget : Budget) (template : LaunchParams) : Launcher BayM.Registers MachinePorts where
  localApic := { window := {}, physBase := 0 }
  ports := {}
  blockAddress := paramsOffset
  budget
  template

/-- **List processors, let some of them be running already, and start the others.** -/
def bringUp (boot : UInt32) (others : List UInt32) (running : List Nat) (budget : Budget)
    (template : LaunchParams) (cfg : BringUpConfig) : BayM BringUp := do
  let _ ← ProcessorTable.discoverHere boot others
  modifyThe ProcessorTable fun t => running.foldl ProcessorTable.markStarted t
  BringUp.run (launcher budget template) cfg

end Bay

end Interrupts.Sim
