import Interrupts.Pic
import Interrupts.Proofs.Kernel.Watched

/-!
# What becomes of the 8259 chips

A chip is told things in sequences: a command with bit 4 clears its mask and starts an
initialisation, and then the next three bytes on its data port are its first vector, its wiring and
its mode. Any other byte on the data port is its mask. `Chips.after` is what two such chips have
become after the kernel did something to the hardware.

Whatever the chips were before, in the middle of an initialisation or not, programming them leaves
them ready with the vectors that were meant.
-/

namespace Interrupts

/-! ## Chips -/

/-- What the next byte on the data port is. -/
inductive ChipStage where
  /-- The first vector. -/
  | vector
  /-- How master and slave are wired. -/
  | wiring
  /-- The mode. -/
  | mode
  /-- The mask: the chip is at work. -/
  | atWork
  deriving DecidableEq, Repr

/-- **A chip**: where it is in its initialisation, and what it was told. -/
structure Chip where
  stage : ChipStage
  /-- The vector of its first line. -/
  base : UInt8
  /-- Where the other chip is attached. -/
  wiring : UInt8
  /-- The last word of the initialisation. -/
  mode : UInt8
  /-- The lines that it does not deliver, a bit for each. -/
  mask : UInt8
  deriving DecidableEq, Repr

namespace Chip

/-- A byte on the command port. -/
def command (c : Chip) (value : UInt8) : Chip :=
  if value &&& 0x10 ≠ 0 then { c with mask := 0, stage := .vector } else c

/-- A byte on the data port. Of the first vector, the low three bits are the line's. -/
def data (c : Chip) (value : UInt8) : Chip :=
  match c.stage with
  | .vector => { c with base := value &&& 0xf8, stage := .wiring }
  | .wiring => { c with wiring := value, stage := .mode }
  | .mode => { c with mode := value, stage := .atWork }
  | .atWork => { c with mask := value }

end Chip

/-- **The pair of chips.** -/
structure Chips where
  master : Chip
  slave : Chip
  deriving DecidableEq, Repr

namespace Chips

/-- What the chips make of an event. -/
def step (c : Chips) : HardwareEvent → Chips
  | .out port value =>
    if port = Pic.masterCommand then { c with master := c.master.command value }
    else if port = Pic.masterData then { c with master := c.master.data value }
    else if port = Pic.slaveCommand then { c with slave := c.slave.command value }
    else if port = Pic.slaveData then { c with slave := c.slave.data value }
    else c
  | .store _ _ => c
  | .served _ => c

/-- **The chips after a number of events.** -/
def after (c : Chips) (events : List HardwareEvent) : Chips :=
  events.foldl step c

/-- **Chips at work**: with these first vectors and masks, the slave on line 2 of the master, in the
mode of this processor. -/
def atWork (masterBase slaveBase masterMask slaveMask : UInt8) : Chips where
  master :=
    { stage := .atWork, base := masterBase, wiring := 0x04, mode := 0x01, mask := masterMask }
  slave :=
    { stage := .atWork, base := slaveBase, wiring := 0x02, mode := 0x01, mask := slaveMask }

variable (c : Chips) (events events' : List HardwareEvent)

theorem after_append : c.after (events ++ events') = (c.after events).after events' :=
  List.foldl_append

end Chips

/-! ## Programming the chips -/

namespace Pic

/-- What is written to program the chips and give them masks. -/
def programming (masterBase slaveBase masterMask slaveMask : UInt8) : List HardwareEvent :=
  [.out masterCommand initCommand, .out slaveCommand initCommand, .out masterData masterBase,
    .out slaveData slaveBase, .out masterData 0x04, .out slaveData 0x02, .out masterData mode8086,
    .out slaveData mode8086, .out masterData masterMask, .out slaveData slaveMask]

/-- What is written to give both chips a mask. -/
def masking (mask : UInt8) : List HardwareEvent :=
  [.out masterData mask, .out slaveData mask]

end Pic

namespace Chips

variable (c : Chips) {masterBase slaveBase : UInt8}

/-- The first vector of a line is a multiple of eight. -/
theorem and_f8_of_dvd {base : UInt8} (h : 8 ∣ base.toNat) : base &&& 0xf8 = base := by
  have hall : ∀ k < 32, UInt8.ofNat (8 * k) &&& 0xf8 = UInt8.ofNat (8 * k) := by decide
  obtain ⟨k, hk⟩ := h
  have hlt := base.toNat_lt
  have hbase := hall k (by omega)
  rwa [← hk, UInt8.ofNat_toNat] at hbase

/-- **Programming puts the chips to work**, whatever they were before. -/
theorem after_programming (hmaster : 8 ∣ masterBase.toNat) (hslave : 8 ∣ slaveBase.toNat)
    (masterMask slaveMask : UInt8) :
    c.after (Pic.programming masterBase slaveBase masterMask slaveMask)
      = atWork masterBase slaveBase masterMask slaveMask := by
  have hsteps : c.after (Pic.programming masterBase slaveBase masterMask slaveMask)
      = atWork (masterBase &&& 0xf8) (slaveBase &&& 0xf8) masterMask slaveMask :=
    rfl
  rw [hsteps, and_f8_of_dvd hmaster, and_f8_of_dvd hslave]

/-- A mask changes nothing else of chips at work. -/
theorem after_masking (masterMask slaveMask mask : UInt8) :
    (atWork masterBase slaveBase masterMask slaveMask).after (Pic.masking mask)
      = atWork masterBase slaveBase mask mask :=
  rfl

end Chips

end Interrupts
