import Interrupts.Sim.Bench

/-!
# A machine of I/O ports

Behind the ports are the pair of 8259 controllers, as far as their service and request registers
go, channel 0 of the interval timer, and the serial port. Every other port just remembers what was
last written to it.

The counter of channel 0 only moves when it is latched: each latch takes the next of a cycle of
steps off it. The serial port takes a while to be ready for each byte, and collects the bytes it is
sent. All other accesses are recorded in order.
-/

namespace Interrupts.Sim

/-- **One recorded access**, or another event of the machine that belongs in the same order. -/
inductive IoEvent where
  | read (port : UInt16) (value : UInt8)
  | write (port : UInt16) (value : UInt8)
  | loadIdt
  | readMsr (register : UInt32) (value : UInt64)
  | writeMsr (register : UInt32) (value : UInt64)
  | halt
  deriving DecidableEq, Repr

/-- **The machine behind the ports.** -/
structure PortMachine where
  /-- What was last written to each port. -/
  stored : List (UInt16 × UInt8) := []
  /-- The service and the request registers of the two chips. -/
  inService : UInt8 × UInt8 := (0, 0)
  requests : UInt8 × UInt8 := (0, 0)
  /-- Reads of the two command ports show the service registers. -/
  showService : Bool × Bool := (false, false)
  /-- The counter of channel 0, the steps it takes, and the number of steps taken. -/
  count : UInt16 := 0
  steps : Array UInt16 := #[1000]
  taken : Nat := 0
  /-- The latched count, and whether its low byte was read. -/
  latched : UInt16 := 0
  lowRead : Bool := false
  latches : Nat := 0
  /-- The polls until the serial port is ready, and how many of them are left. -/
  busy : Nat := 0
  busyLeft : Nat := 0
  /-- The bytes sent. -/
  sent : Array UInt8 := #[]
  /-- The recorded accesses. -/
  events : Array IoEvent := #[]

namespace PortMachine

/-- What was last written to a port. -/
def last (m : PortMachine) (port : UInt16) : UInt8 :=
  (m.stored.lookup port).getD 0

/-- Record an event. -/
def record (m : PortMachine) (e : IoEvent) : PortMachine :=
  { m with events := m.events.push e }

/-- Forget what was recorded. -/
def forget (m : PortMachine) : PortMachine :=
  { m with events := #[], latches := 0, sent := #[] }

/-- Store a value in a port. -/
def store (m : PortMachine) (port : UInt16) (value : UInt8) : PortMachine :=
  { m with stored := putKey port value m.stored }

/-- The value of a port that only remembers, or of a command port. -/
def shown (m : PortMachine) (port : UInt16) : UInt8 :=
  if port = 0x20 then (if m.showService.1 then m.inService.1 else m.requests.1)
  else if port = 0xa0 then (if m.showService.2 then m.inService.2 else m.requests.2)
  else m.last port

/-- Read a byte of the latched count. -/
def readCounter (m : PortMachine) : UInt8 × PortMachine :=
  if m.lowRead then ((m.latched >>> 8).toUInt8, { m with lowRead := false })
  else (m.latched.toUInt8, { m with lowRead := true })

/-- Poll the line status. -/
def readStatus (m : PortMachine) : UInt8 × PortMachine :=
  match m.busyLeft with
  | 0 => (0x20, { m with busyLeft := m.busy })
  | left + 1 => (0, { m with busyLeft := left })

/-- **Read a port.** -/
def read (port : UInt16) (m : PortMachine) : UInt8 × PortMachine :=
  if port = 0x40 then m.readCounter
  else if port = 0x3fd then m.readStatus
  else
    let value := m.shown port
    (value, m.record (.read port value))

/-- Take the next step off the counter and latch it. -/
def latch (m : PortMachine) : PortMachine :=
  let step := if m.steps.isEmpty then 0 else (m.steps[m.taken % m.steps.size]?).getD 0
  let count := m.count - step
  { m with
    count, latched := count, lowRead := false, taken := m.taken + 1, latches := m.latches + 1 }

/-- A command chooses what reads of the command port show. -/
def choose (value : UInt8) (old : Bool) : Bool :=
  if value = 0x0b then true else if value = 0x0a then false else old

/-- **Write a port.** -/
def write (port : UInt16) (value : UInt8) (m : PortMachine) : PortMachine :=
  if port = 0x43 ∧ value = 0 then m.latch
  else if port = 0x3f8 ∧ m.last 0x3fb &&& 0x80 = 0 then { m with sent := m.sent.push value }
  else
    let m := m.record (.write port value)
    if port = 0x20 then { m with showService := (choose value m.showService.1, m.showService.2) }
    else if port = 0xa0 then
      { m with showService := (m.showService.1, choose value m.showService.2) }
    else m.store port value

instance : PortDevice PortMachine where
  read := read
  write := write

end PortMachine

end Interrupts.Sim
