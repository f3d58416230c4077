import Interrupts.Poll
import Interrupts.Processor.Table

/-!
# Bring-up of the other processors

The boot processor starts the others one after another. For each it prepares a stack, resets the
processor with an INIT, waits, points it at the trampoline with a STARTUP, and waits for the
processor to raise its own flag; when that does not happen it may send a second STARTUP. A
processor that never answers is reset once more, so that it cannot wake up later inside the
trampoline, and is left out. Everything that touches hardware is behind `ApControl`, so the
sequence can be run against any behaviour of the hardware and of the processors.
-/

namespace Interrupts

/-- The hardware side of bring-up. Any of its steps may take so long that processors raise their
flags meanwhile. -/
class ApControl (A : Type) (m : Type → Type) where
  /-- Make a stack and the parameters for the processor at a position. -/
  prepare : A → (index : Nat) → (apicId : UInt32) → m (Except BringUpError Unit)
  /-- Reset a processor. -/
  sendInit : A → (apicId : UInt32) → m (Except BringUpError Unit)
  /-- Point a processor at a page of low memory. -/
  sendStartup : A → (apicId : UInt32) → (page : UInt8) → m (Except BringUpError Unit)
  /-- Wait for some microseconds. -/
  delay : A → (microseconds : UInt32) → m Unit
  /-- Take one step of a wait. -/
  relax : A → m Unit

/-- **How bring-up is paced.** -/
structure BringUpConfig where
  /-- The number of the trampoline's page. -/
  startPage : UInt8 := 0x08
  /-- The wait after an INIT, in microseconds. -/
  initDelay : UInt32 := 10000
  /-- The wait after a STARTUP, in microseconds. -/
  startupDelay : UInt32 := 200
  /-- The budget for a processor to raise its flag. -/
  startupWait : Budget := .apStartup
  /-- Send a second STARTUP when the first goes unanswered. -/
  secondStartup : Bool := true
  deriving DecidableEq, Repr

/-- The pacing as it is written in reports. -/
def BringUpConfig.describe (c : BringUpConfig) : String :=
  s!"BringUpConfig \x7b start_page: {c.startPage.toNat}, " ++
    s!"init_delay_us: {c.initDelay.toNat}, startup_delay_us: {c.startupDelay.toNat}, " ++
    s!"startup_wait: {c.startupWait.describe}, second_startup: {c.secondStartup} \x7d"

/-- How many processors were listed, started and given up. -/
structure BringUpSummary where
  processors : Nat
  started : Nat
  abandoned : Nat
  deriving DecidableEq, Repr

/-- **The outcome of bring-up.** -/
inductive BringUp where
  /-- There are no other processors; nothing was sent. -/
  | singleProcessor
  /-- Every processor that was only discovered is started or abandoned. -/
  | completed (summary : BringUpSummary)
  deriving DecidableEq, Repr

/-- The outcome as it is written in log lines. -/
def BringUp.describe : BringUp → String
  | singleProcessor => "SingleProcessor"
  | completed s =>
    s!"Completed(BringUpSummary \x7b processors: {s.processors}, started: {s.started}, " ++
      s!"abandoned: {s.abandoned} \x7d)"

namespace BringUp

variable {A : Type} {m : Type → Type} [Monad m] [Logger m] [MonadStateOf ProcessorTable m]
  [ApControl A m]

/-- Record how far bring-up has come with a processor. -/
def mark (index : Nat) (s : ProcessorState) : m Unit :=
  modifyThe ProcessorTable fun t => t.setState index s

/-- Send STARTUPs, at most `left` more of them after `sent`, until the processor answers. -/
def attempts (ctl : A) (cfg : BringUpConfig) (index : Nat) (apicId : UInt32) :
    (left sent : Nat) → m Bool
  | 0, _ => pure false
  | left + 1, sent => do
    mark index .startupSent
    match ← ApControl.sendStartup ctl apicId cfg.startPage with
    | .error e => do
      log .warn s!"MP: STARTUP to CPU {hex0x apicId.toNat} failed: {e.describe}"
      pure false
    | .ok () => do
      ApControl.delay ctl cfg.startupDelay
      let waited ← cfg.startupWait.wait
        (do pure ((← getThe ProcessorTable).isStarted index)) (ApControl.relax ctl)
      match waited with
      | .ok _ => pure true
      | .error _ => do
        let number := sent + 1
        log .debug s!"MP: CPU {hex0x apicId.toNat} silent after STARTUP {number}"
        attempts ctl cfg index apicId left (sent + 1)

/-- Reset a processor that never answered, and leave it out. -/
def park (ctl : A) (index : Nat) (apicId : UInt32) : m Unit := do
  log .info s!"MP: CPU {hex0x apicId.toNat} did not respond"
  match ← ApControl.sendInit ctl apicId with
  | .error _ => log .warn s!"MP: CPU {hex0x apicId.toNat} could not be parked"
  | .ok () => pure ()
  mark index .abandoned

/-- The number of STARTUPs a processor is sent at most. -/
def maxAttempts (cfg : BringUpConfig) : Nat :=
  if cfg.secondStartup then 2 else 1

/-- **Start one processor.** Answers whether it came online. -/
def startOne (ctl : A) (cfg : BringUpConfig) (index : Nat) (apicId : UInt32) : m Bool := do
  match ← ApControl.prepare ctl index apicId with
  | .error e => do
    log .warn s!"MP: CPU {hex0x apicId.toNat} not started: {e.describe}"
    mark index .abandoned
    pure false
  | .ok () => do
    mark index .initSent
    match ← ApControl.sendInit ctl apicId with
    | .error e => do
      log .warn s!"MP: INIT to CPU {hex0x apicId.toNat} failed: {e.describe}"
      mark index .abandoned
      pure false
    | .ok () => do
      ApControl.delay ctl cfg.initDelay
      if ← attempts ctl cfg index apicId (maxAttempts cfg) 0 then
        mark index .started
        log .info s!"MP: CPU {hex0x apicId.toNat} reported online"
        pure true
      else
        park ctl index apicId
        pure false

/-- Start the processors at `left` positions from `index` on, as far as they are only discovered.
Counts the started and the abandoned ones. -/
def startFrom (ctl : A) (cfg : BringUpConfig) : (left index started abandoned : Nat) → m (Nat × Nat)
  | 0, _, started, abandoned => pure (started, abandoned)
  | left + 1, index, started, abandoned => do
    match (← getThe ProcessorTable).get? index with
    | none => startFrom ctl cfg left (index + 1) started abandoned
    | some p =>
      if p.state = .discovered then
        if ← startOne ctl cfg index p.apicId then
          startFrom ctl cfg left (index + 1) (started + 1) abandoned
        else
          startFrom ctl cfg left (index + 1) started (abandoned + 1)
      else
        startFrom ctl cfg left (index + 1) started abandoned

/-- **Start every other processor that was only discovered**, in the order of the table. -/
def run (ctl : A) (cfg : BringUpConfig) : m BringUp := do
  let processors := (← getThe ProcessorTable).size
  if processors < 2 then
    log .info "MP: no secondary CPUs to start"
    pure .singleProcessor
  else
    let (started, abandoned) ← startFrom ctl cfg (processors - 1) 1 0 0
    let others := processors - 1
    log .info s!"MP: {started} of {others} application processors online"
    pure (.completed { processors, started, abandoned })

end BringUp

end Interrupts
