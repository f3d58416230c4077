import Interrupts.Processor.BringUp
import Interrupts.Sim.Bench

/-!
# Processors that follow a script

The hardware side of bring-up is replaced by a script that says, for each processor, which of the
commands to it fail and at which of them, or of the delays and steps of waiting between its
preparation and the next one, it raises its flag. Every call is recorded together with what the processor table said at
that moment.
-/

namespace Interrupts.Sim

/-- **What one processor and the commands to it do.** -/
structure ApScript where
  apicId : UInt32
  prepareError : Option BringUpError := none
  /-- The calls, counted from one, that fail. -/
  initFailures : List Nat := []
  startupFailures : List Nat := []
  /-- The call, the delay or the step of waiting, counted from one, that raises the flag. -/
  startOnInit : Option Nat := none
  startOnStartup : Option Nat := none
  startOnDelay : Option Nat := none
  startOnRelax : Option Nat := none

/-- What the table said about a processor: its state, and whether anything was in flight. -/
structure Sighting where
  state : Option ProcessorState
  quiescent : Except BringUpError Unit

/-- **One recorded call.** -/
inductive ApCall where
  | prepare (apicId : UInt32) (index : Nat) (seen : Sighting)
  | init (apicId : UInt32) (nth : Nat) (seen : Sighting)
  | startup (apicId : UInt32) (nth : Nat) (page : UInt8) (seen : Sighting)
  | delay (us : UInt32)
  /-- A run of steps of waiting. -/
  | relax (steps : Nat)

/-- **The processor table, and the script at work.** -/
structure ApRig where
  table : ProcessorTable := {}
  scripts : List ApScript := []
  /-- The INITs and STARTUPs sent so far to each processor. -/
  inits : List (UInt32 × Nat) := []
  startups : List (UInt32 × Nat) := []
  /-- The processor that was prepared last. -/
  current : Option UInt32 := none
  /-- The delays and the steps of waiting since then. -/
  delays : Nat := 0
  relaxes : Nat := 0
  trace : Array ApCall := #[]

namespace ApRig

/-- Record a call; steps of waiting in a row are recorded as one run. -/
def record (r : ApRig) (call : ApCall) : ApRig :=
  match call, r.trace.back? with
  | .relax n, some (.relax k) => { r with trace := r.trace.pop.push (.relax (k + n)) }
  | _, _ => { r with trace := r.trace.push call }

/-- The script of a processor. -/
def script (r : ApRig) (apicId : UInt32) : ApScript :=
  (r.scripts.find? fun s => s.apicId == apicId).getD { apicId }

/-- What the table says about a processor. -/
def sight (r : ApRig) (apicId : UInt32) : Sighting where
  state := (r.table.indexOf? apicId).bind r.table.state?
  quiescent := r.table.ensureQuiescent

/-- Raise the flag of a processor. -/
def raise (r : ApRig) (apicId : UInt32) : ApRig :=
  { r with table := r.table.markStartedId apicId }

/-- A processor is prepared. -/
def prepare (index : Nat) (apicId : UInt32) (r : ApRig) : Except BringUpError Unit × ApRig :=
  let s := r.script apicId
  let r := r.record (.prepare apicId index (r.sight apicId))
  let r := { r with current := some apicId, delays := 0, relaxes := 0 }
  match s.prepareError with
  | some e => (.error e, r)
  | none => (.ok (), r)

/-- An INIT is sent. -/
def sendInit (apicId : UInt32) (r : ApRig) : Except BringUpError Unit × ApRig :=
  let s := r.script apicId
  let nth := (r.inits.lookup apicId).getD 0 + 1
  let r := { r with inits := putKey apicId nth r.inits }
  let r := r.record (.init apicId nth (r.sight apicId))
  if s.initFailures.contains nth then (.error (.ipiTimeout apicId), r)
  else if s.startOnInit = some nth then (.ok (), r.raise apicId)
  else (.ok (), r)

/-- A STARTUP is sent. -/
def sendStartup (apicId : UInt32) (page : UInt8) (r : ApRig) : Except BringUpError Unit × ApRig :=
  let s := r.script apicId
  let nth := (r.startups.lookup apicId).getD 0 + 1
  let r := { r with startups := putKey apicId nth r.startups }
  let r := r.record (.startup apicId nth page (r.sight apicId))
  if s.startupFailures.contains nth then (.error (.ipiTimeout apicId), r)
  else if s.startOnStartup = some nth then (.ok (), r.raise apicId)
  else (.ok (), r)

/-- The processor prepared last raises its flag when a count has come to where its script says. -/
def countTo (r : ApRig) (count : Nat) (wanted : ApScript → Option Nat) : ApRig :=
  match r.current with
  | some apicId => if wanted (r.script apicId) = some count then r.raise apicId else r
  | none => r

/-- A delay passes. -/
def delay (us : UInt32) (r : ApRig) : ApRig :=
  let r := { r.record (.delay us) with delays := r.delays + 1 }
  r.countTo r.delays ApScript.startOnDelay

/-- A step of waiting passes. -/
def relax (r : ApRig) : ApRig :=
  let r := { r.record (.relax 1) with relaxes := r.relaxes + 1 }
  r.countTo r.relaxes ApScript.startOnRelax

/-- The rig before bring-up with a script. -/
def load (r : ApRig) (scripts : List ApScript) : ApRig :=
  { table := r.table, scripts }

end ApRig

/-- The hardware side that follows the script of a bench. -/
structure Scripted where

instance : MonadStateOf ProcessorTable (BenchM ApRig) where
  get := do pure (← getThe (Bench ApRig)).device.table
  set t := BenchM.stepDevice fun r => { r with table := t }
  modifyGet f := BenchM.onDevice fun r =>
    let (a, t) := f r.table
    (a, { r with table := t })

instance : ApControl Scripted (BenchM ApRig) where
  prepare _ index apicId := BenchM.onDevice (ApRig.prepare index apicId)
  sendInit _ apicId := BenchM.onDevice (ApRig.sendInit apicId)
  sendStartup _ apicId page := BenchM.onDevice (ApRig.sendStartup apicId page)
  delay _ us := BenchM.stepDevice (ApRig.delay us)
  relax _ := BenchM.stepDevice ApRig.relax

end Interrupts.Sim
