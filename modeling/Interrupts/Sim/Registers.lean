import Interrupts.Sim.Bench

/-!
# Pages and windows of registers

`RegisterPage` is a page of registers that give back what was last written, as a Local APIC's page
does to a driver that is alone with it. Its command register can be made to show the last command as
pending for a number of reads. `TimedPage` adds a timer whose counts are given in advance.

`SelectWindow` is the window of an I/O APIC: 256 registers behind a pair of them, the first of which
selects what the second one is. A floating window belongs to no device and reads as all ones.
-/

namespace Interrupts.Sim

/-- **A page of registers.** -/
structure RegisterPage where
  values : List (UInt64 × UInt32) := []
  /-- The number of reads for which a command stays pending, and how many of them are left. -/
  stuck : Nat := 0
  stuckLeft : Nat := 0
  /-- The number of reads so far. -/
  reads : Nat := 0
  /-- The writes so far. -/
  writes : Array (UInt64 × UInt32) := #[]

namespace RegisterPage

/-- The value of a register. -/
def value (p : RegisterPage) (offset : UInt64) : UInt32 :=
  (p.values.lookup offset).getD 0

/-- Forget what was recorded. -/
def forget (p : RegisterPage) : RegisterPage :=
  { p with writes := #[], reads := 0 }

/-- Set a register without writing it. -/
def preset (p : RegisterPage) (offset : UInt64) (v : UInt32) : RegisterPage :=
  { p with values := putKey offset v p.values }

/-- **Read a register.** -/
def read (offset : UInt64) (p : RegisterPage) : UInt32 × RegisterPage :=
  let v := p.value offset
  let p := { p with reads := p.reads + 1 }
  if offset = 0x300 then
    match p.stuckLeft with
    | 0 => (v, p)
    | left + 1 => (v ||| 0x1000, { p with stuckLeft := left })
  else (v, p)

/-- **Write a register.** -/
def write (offset : UInt64) (v : UInt32) (p : RegisterPage) : RegisterPage :=
  let p := { p with
    values := putKey offset v p.values
    writes := p.writes.push (offset, v) }
  if offset = 0x300 then { p with stuckLeft := p.stuck } else p

instance : RegisterDevice RegisterPage where
  read := read
  write := write

end RegisterPage

/-- **A register page with a timer** that shows given counts at the end of the delays it is measured
against, one after the other and then from the first again. -/
structure TimedPage where
  page : RegisterPage := {}
  counts : Array UInt32 := #[]
  /-- The delays so far, in milliseconds. -/
  delays : Array UInt32 := #[]

namespace TimedPage

/-- The page, as a device of the state. -/
def pageSocket : Socket TimedPage RegisterPage :=
  ⟨TimedPage.page, fun d t => { t with page := d }⟩

/-- The register that shows the current count. -/
def currentCount : UInt64 := 0x390

/-- Forget what was recorded. -/
def forget (t : TimedPage) : TimedPage :=
  { page := t.page.forget }

/-- A delay passes. -/
def pass (ms : UInt32) (t : TimedPage) : TimedPage :=
  let after := { t with delays := t.delays.push ms }
  match t.counts[t.delays.size % t.counts.size]? with
  | some count => { after with page := after.page.preset currentCount count }
  | none => after

end TimedPage

/-- **A recorded access to a selected register.** -/
inductive WindowEvent where
  | read (register : UInt8) (value : UInt32)
  | write (register : UInt8) (value : UInt32)
  deriving DecidableEq, Repr

/-- **A window of two registers in front of 256.** -/
structure SelectWindow where
  selected : UInt8 := 0
  values : Vector UInt32 256 := Vector.replicate 256 0
  /-- No device answers. -/
  floating : Bool := false
  events : Array WindowEvent := #[]

namespace SelectWindow

/-- The value of a register. -/
def value (w : SelectWindow) (register : UInt8) : UInt32 :=
  have := register.toNat_lt
  w.values[register.toNat]

/-- Forget what was recorded. -/
def forget (w : SelectWindow) : SelectWindow :=
  { w with events := #[] }

/-- Set a register without writing it. -/
def preset (w : SelectWindow) (register : UInt8) (v : UInt32) : SelectWindow :=
  { w with values := w.values.set register.toNat v register.toNat_lt }

/-- **Read the window.** -/
def read (offset : UInt64) (w : SelectWindow) : UInt32 × SelectWindow :=
  let v := if w.floating then 0xffffffff
    else if offset = 0x10 then w.value w.selected
    else w.selected.toUInt32
  if offset = 0x10 then (v, { w with events := w.events.push (.read w.selected v) }) else (v, w)

/-- **Write the window.** -/
def write (offset : UInt64) (v : UInt32) (w : SelectWindow) : SelectWindow :=
  if offset = 0x10 then
    { w.preset w.selected v with events := w.events.push (.write w.selected v) }
  else { w with selected := v.toUInt8 }

instance : RegisterDevice SelectWindow where
  read := read
  write := write

end SelectWindow

end Interrupts.Sim
