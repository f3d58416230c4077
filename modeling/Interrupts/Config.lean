import Interrupts.Config.Number
import Interrupts.Log

/-!
# Boot configuration

The command line is a list of words, and a word `key=value` with a known key sets one field of the
configuration. A value that is not valid for its key is ignored like an unknown word, so each field
ends up with the last valid value given for it, or with its default. At the end the vector ranges
of the two 8259 controllers must not overlap; if they do, both go back to their defaults.
-/

namespace Interrupts

/-- **What can be chosen at boot.** -/
structure Config where
  /-- The first vector of the master 8259. -/
  masterBase : UInt8 := 0x20
  /-- The first vector of the slave 8259. -/
  slaveBase : UInt8 := 0x28
  /-- Stay with the 8259 pair even when there is a Local APIC. -/
  forcePic : Bool := false
  /-- The rate of the tick in hertz. -/
  timerHz : UInt32 := 100
  /-- Start the other processors. -/
  smp : Bool := true
  /-- The budget for a started processor to answer. -/
  smpSpins : UInt32 := 2000000
  /-- The budget for the Local APIC to accept a command. -/
  ipiSpins : UInt32 := 100000
  /-- The log level. -/
  logLevel : Level := .standard
  deriving DecidableEq, Repr, Inhabited

namespace Config

/-- The configuration as it is written in reports. -/
def describe (c : Config) : String :=
  s!"InterruptConfig \x7b pic_master_offset: {c.masterBase.toNat}, " ++
    s!"pic_slave_offset: {c.slaveBase.toNat}, force_pic: {c.forcePic}, " ++
    s!"timer_hz: {c.timerHz.toNat}, smp: {c.smp}, smp_spins: {c.smpSpins.toNat}, " ++
    s!"ipi_spins: {c.ipiSpins.toNat}, log_level: {c.logLevel.name} \x7d"

/-- A switch: four spellings for on and four for off, the letters in either case. -/
def switch? (value : List Char) : Option Bool :=
  if ["on", "true", "yes", "1"].any fun s => Text.sameLetters value s.toList then some true
  else if ["off", "false", "no", "0"].any fun s => Text.sameLetters value s.toList then some false
  else none

/-- The first vector of a controller: past the exceptions, divisible by eight, in one byte. -/
def vectorBase? (value : List Char) : Option UInt8 :=
  (Number.parse? value).bind fun n =>
    if n < 256 ∧ 0x20 ≤ n ∧ n % 8 = 0 then some n.toUInt8 else none

/-- A rate of the tick, from 1 to 10000 hertz. -/
def rate? (value : List Char) : Option UInt32 :=
  (Number.parse? value).filter fun hz => 1 ≤ hz && hz ≤ 10000

/-- A budget of at least one poll. -/
def spins? (value : List Char) : Option UInt32 :=
  (Number.parse? value).filter fun n => 0 < n

/-- Set a field when there is a valid value for it. -/
def setIf {α : Type} (value : Option α) (set : α → Config) (unchanged : Config) : Config :=
  match value with
  | some a => set a
  | none => unchanged

/-- The configuration after one word of the command line. -/
def absorb (c : Config) (word : List Char) : Config :=
  let key (k : String) := Text.after? k.toList word
  match key "irq.pic_master=" with
  | some v => setIf (vectorBase? v) (fun b => { c with masterBase := b }) c
  | none =>
  match key "irq.pic_slave=" with
  | some v => setIf (vectorBase? v) (fun b => { c with slaveBase := b }) c
  | none =>
  match key "irq.force_pic=" with
  | some v => setIf (switch? v) (fun b => { c with forcePic := b }) c
  | none =>
  match key "timer.hz=" with
  | some v => setIf (rate? v) (fun hz => { c with timerHz := hz }) c
  | none =>
  match key "smp.spins=" with
  | some v => setIf (spins? v) (fun n => { c with smpSpins := n }) c
  | none =>
  match key "smp=" with
  | some v => setIf (switch? v) (fun b => { c with smp := b }) c
  | none =>
  match key "apic.ipi_spins=" with
  | some v => setIf (spins? v) (fun n => { c with ipiSpins := n }) c
  | none =>
  match key "loglevel=" with
  | some v => setIf (Level.ofName? v) (fun l => { c with logLevel := l }) c
  | none => c

/-- The distance of two vectors. -/
def distance (a b : UInt8) : Nat :=
  (a.toNat - b.toNat) + (b.toNat - a.toNat)

/-- Go back to the default vector ranges when the chosen ones overlap. -/
def separate (c : Config) : Config :=
  if distance c.masterBase c.slaveBase < 8 then { c with masterBase := 0x20, slaveBase := 0x28 }
  else c

/-- **The configuration a command line asks for.** -/
def ofCommandLine (line : Option String) : Config :=
  match line with
  | none => {}
  | some text => separate ((Text.words text.toList).foldl absorb {})

end Config

end Interrupts
