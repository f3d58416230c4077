import Interrupts.Processor.BringUp
import Interrupts.Proofs.Processor.Flags

/-!
# The course of bring-up, move by move

A *move* is one thing that happens while processors are started: a call to the hardware side with
its answer, a state that is stored in the table, or a line that is logged. Each is recorded with the
table before and after it, so that a record of all moves tells what every processor's flag and
state were at any time.

The relations of this module say which records bring-up can leave. `Word` is the record of one
processor: it is prepared, reset, told to start once or twice, and in the end it is recorded as
online or as abandoned. `Course` puts the words of all processors one after the other.
-/

namespace Interrupts

/-! ## Moves -/

/-- **A call to the hardware side**, with its answer. -/
inductive ApCall where
  /-- Get everything ready that the processor needs when it starts. -/
  | prepare (index : Nat) (apicId : UInt32) (answer : Except BringUpError Unit)
  /-- Send it an INIT. -/
  | init (apicId : UInt32) (answer : Except BringUpError Unit)
  /-- Send it a STARTUP that points it to a page. -/
  | startup (apicId : UInt32) (page : UInt8) (answer : Except BringUpError Unit)
  /-- Let some time pass. -/
  | delay (microseconds : UInt32)
  /-- Pause between two looks at a flag. -/
  | relax

/-- **What kind of move it is.** -/
inductive ApAct where
  /-- The hardware side is called. -/
  | call (c : ApCall)
  /-- Bring-up writes to the table. -/
  | store
  /-- A line is logged. -/
  | line

/-- **One move**, with the table before and after it. -/
structure ApMove where
  act : ApAct
  before : ProcessorTable
  after : ProcessorTable

/-- Each move starts from the table that the one before it left. -/
def Linked : ProcessorTable → List ApMove → ProcessorTable → Prop
  | t, [], t' => t' = t
  | t, m :: moves, t' => m.before = t ∧ Linked m.after moves t'

/-- Two linked lists of moves that meet in a table are linked as one. -/
theorem Linked.append {t t' t'' : ProcessorTable} {ms ms' : List ApMove} (h : Linked t ms t')
    (h' : Linked t' ms' t'') : Linked t (ms ++ ms') t'' := by
  induction ms generalizing t with
  | nil => exact (show t' = t from h) ▸ h'
  | cons m ms ih => exact ⟨h.1, ih h.2⟩

/-! ## Deeds -/

/-- **What bring-up does in one move.** -/
inductive ApDeed where
  /-- Call the hardware side, and get this answer. -/
  | call (c : ApCall)
  /-- Store a state in the table. -/
  | store (index : Nat) (state : ProcessorState)
  /-- Log a line. -/
  | line

/-- **The moves are these deeds in order.** While a call or a log line takes its time, processors
may raise their flags. -/
inductive Performs : List ApDeed → ProcessorTable → List ApMove → ProcessorTable → Prop
  | nil {t : ProcessorTable} : Performs [] t [] t
  /-- A call takes its time. -/
  | call {c : ApCall} {deeds : List ApDeed} {t t' t'' : ProcessorTable} {ms : List ApMove}
      (raises : t.Raises t') (rest : Performs deeds t' ms t'') :
      Performs (.call c :: deeds) t (⟨.call c, t, t'⟩ :: ms) t''
  /-- A store is made at once, so nobody raises a flag in between. -/
  | store {i : Nat} {s : ProcessorState} {deeds : List ApDeed} {t t'' : ProcessorTable}
      {ms : List ApMove} (rest : Performs deeds (t.setState i s) ms t'') :
      Performs (.store i s :: deeds) t (⟨.store, t, t.setState i s⟩ :: ms) t''
  /-- So does a log line, which may go out over a slow port. -/
  | line {deeds : List ApDeed} {t t' t'' : ProcessorTable} {ms : List ApMove}
      (raises : t.Raises t') (rest : Performs deeds t' ms t'') :
      Performs (.line :: deeds) t (⟨.line, t, t'⟩ :: ms) t''

namespace Performs

variable {deeds deeds' : List ApDeed} {t t' t'' : ProcessorTable} {ms ms' : List ApMove}

/-- Two straight lines of deeds that meet in a table are one straight line. -/
theorem append (h : Performs deeds t ms t') (h' : Performs deeds' t' ms' t'') :
    Performs (deeds ++ deeds') t (ms ++ ms') t'' := by
  induction h with
  | nil => exact h'
  | call raises _ ih => exact .call raises (ih h')
  | store _ ih => exact .store (ih h')
  | line raises _ ih => exact .line raises (ih h')

theorem one_call {c : ApCall} (raises : t.Raises t') :
    Performs [.call c] t [⟨.call c, t, t'⟩] t' :=
  .call raises .nil

theorem one_store (t : ProcessorTable) (i : Nat) (s : ProcessorState) :
    Performs [.store i s] t [⟨.store, t, t.setState i s⟩] (t.setState i s) :=
  .store .nil

theorem one_line (raises : t.Raises t') : Performs [.line] t [⟨.line, t, t'⟩] t' :=
  .line raises .nil

/-- A single line is a single move. -/
theorem of_line (h : Performs [.line] t ms t') : t.Raises t' ∧ ms = [⟨.line, t, t'⟩] := by
  cases h with
  | line raises rest =>
    cases rest
    exact ⟨raises, rfl⟩

end Performs

/-! ## One processor -/

section Words

variable (cfg : BringUpConfig) (i : Nat) (id : UInt32)

/-- **The wait for a flag**, with a number of relaxing steps to go: it ends when the flag is seen,
or after a last look when no step is left. -/
inductive Waits :
    (left : Nat) → ProcessorTable → List ApMove → (seen : Bool) → ProcessorTable → Prop
  /-- The flag is up. -/
  | seen {left : Nat} {t : ProcessorTable} (flag : t.isStarted i = true) : Waits left t [] true t
  /-- It is not, and there is no step left to take. -/
  | unseen {t : ProcessorTable} (flag : t.isStarted i = false) : Waits 0 t [] false t
  /-- It is not, and one step is taken before the next look. -/
  | relax {left : Nat} {t t' t'' : ProcessorTable} {ms ms' : List ApMove} {seen : Bool}
      (flag : t.isStarted i = false) (step : Performs [.call .relax] t ms t')
      (rest : Waits left t' ms' seen t'') : Waits (left + 1) t (ms ++ ms') seen t''

/-- **The STARTUPs**, with a number of them to go: each is recorded, sent and given time, until the
flag is seen or a command is refused. -/
inductive Attempts :
    (left : Nat) → ProcessorTable → List ApMove → (answered : Bool) → ProcessorTable → Prop
  /-- No STARTUP is left to send. -/
  | exhausted {t : ProcessorTable} : Attempts 0 t [] false t
  /-- The command is refused, which ends the attempts; the flag is not looked at again. -/
  | refused {left : Nat} {t t' : ProcessorTable} {ms : List ApMove} {e : BringUpError}
      (tried : Performs [.store i .startupSent, .call (.startup id cfg.startPage (.error e)), .line]
        t ms t') : Attempts (left + 1) t ms false t'
  /-- The flag is seen within the wait. -/
  | answered {left : Nat} {t t₁ t' : ProcessorTable} {ms ms₁ : List ApMove}
      (tried : Performs [.store i .startupSent, .call (.startup id cfg.startPage (.ok ())),
        .call (.delay cfg.startupDelay)] t ms t₁)
      (waits : Waits i cfg.startupWait.polls.toNat t₁ ms₁ true t') :
      Attempts (left + 1) t (ms ++ ms₁) true t'
  /-- The wait ends without it, and the next STARTUP is sent. -/
  | silent {left : Nat} {t t₁ t₂ t₃ t' : ProcessorTable} {ms ms₁ ms₂ ms₃ : List ApMove}
      {answered : Bool}
      (tried : Performs [.store i .startupSent, .call (.startup id cfg.startPage (.ok ())),
        .call (.delay cfg.startupDelay)] t ms t₁)
      (waits : Waits i cfg.startupWait.polls.toNat t₁ ms₁ false t₂)
      (reports : Performs [.line] t₂ ms₂ t₃) (again : Attempts left t₃ ms₃ answered t') :
      Attempts (left + 1) t (ms ++ (ms₁ ++ (ms₂ ++ ms₃))) answered t'

/-- **The word of one processor**, and whether it came online. -/
inductive Word : ProcessorTable → List ApMove → (online : Bool) → ProcessorTable → Prop
  /-- There is no stack for it, or no parameters. -/
  | unprepared {t t' : ProcessorTable} {ms : List ApMove} {e : BringUpError}
      (moves : Performs [.call (.prepare i id (.error e)), .line, .store i .abandoned] t ms t') :
      Word t ms false t'
  /-- It cannot be reset. -/
  | unreset {t t' : ProcessorTable} {ms : List ApMove} {e : BringUpError}
      (moves : Performs [.call (.prepare i id (.ok ())), .store i .initSent,
        .call (.init id (.error e)), .line, .store i .abandoned] t ms t') : Word t ms false t'
  /-- It answers. -/
  | online {t t₁ t₂ t' : ProcessorTable} {ms ms₁ ms₂ : List ApMove}
      (reset : Performs [.call (.prepare i id (.ok ())), .store i .initSent,
        .call (.init id (.ok ())), .call (.delay cfg.initDelay)] t ms t₁)
      (answers : Attempts cfg i id (BringUp.maxAttempts cfg) t₁ ms₁ true t₂)
      (recorded : Performs [.store i .started, .line] t₂ ms₂ t') :
      Word t (ms ++ (ms₁ ++ ms₂)) true t'
  /-- It does not answer and is reset once more. -/
  | parked {t t₁ t₂ t' : ProcessorTable} {ms ms₁ ms₂ : List ApMove}
      (reset : Performs [.call (.prepare i id (.ok ())), .store i .initSent,
        .call (.init id (.ok ())), .call (.delay cfg.initDelay)] t ms t₁)
      (silent : Attempts cfg i id (BringUp.maxAttempts cfg) t₁ ms₁ false t₂)
      (parks : Performs [.line, .call (.init id (.ok ())), .store i .abandoned] t₂ ms₂ t') :
      Word t (ms ++ (ms₁ ++ ms₂)) false t'
  /-- It does not answer and cannot be reset either. -/
  | stray {t t₁ t₂ t' : ProcessorTable} {ms ms₁ ms₂ : List ApMove} {e : BringUpError}
      (reset : Performs [.call (.prepare i id (.ok ())), .store i .initSent,
        .call (.init id (.ok ())), .call (.delay cfg.initDelay)] t ms t₁)
      (silent : Attempts cfg i id (BringUp.maxAttempts cfg) t₁ ms₁ false t₂)
      (parks : Performs [.line, .call (.init id (.error e)), .line, .store i .abandoned]
        t₂ ms₂ t') :
      Word t (ms ++ (ms₁ ++ ms₂)) false t'

end Words

/-! ## All processors -/

/-- **The words of the processors** at `left` positions from `index` on that were only discovered,
and how many came online and how many did not. -/
inductive Sweep (cfg : BringUpConfig) : (left index : Nat) → ProcessorTable → List ApMove →
    (started abandoned : Nat) → ProcessorTable → Prop
  /-- All positions were visited. -/
  | done {index : Nat} {t : ProcessorTable} : Sweep cfg 0 index t [] 0 0 t
  /-- The processor at the position is in another state, and is passed over. -/
  | skip {left index started abandoned : Nat} {t t' : ProcessorTable} {ms : List ApMove}
      (other : t.state? index ≠ some .discovered)
      (rest : Sweep cfg left (index + 1) t ms started abandoned t') :
      Sweep cfg (left + 1) index t ms started abandoned t'
  /-- It is started, and counted as such. -/
  | online {left index started abandoned : Nat} {p : Processor} {t t₁ t' : ProcessorTable}
      {ms ms' : List ApMove} (found : t.get? index = some p) (state : p.state = .discovered)
      (word : Word cfg index p.apicId t ms true t₁)
      (rest : Sweep cfg left (index + 1) t₁ ms' started abandoned t') :
      Sweep cfg (left + 1) index t (ms ++ ms') (started + 1) abandoned t'
  /-- It is not, and is counted with those that are left out. -/
  | givenUp {left index started abandoned : Nat} {p : Processor} {t t₁ t' : ProcessorTable}
      {ms ms' : List ApMove} (found : t.get? index = some p) (state : p.state = .discovered)
      (word : Word cfg index p.apicId t ms false t₁)
      (rest : Sweep cfg left (index + 1) t₁ ms' started abandoned t') :
      Sweep cfg (left + 1) index t (ms ++ ms') started (abandoned + 1) t'

/-- **The course of bring-up.** -/
inductive Course (cfg : BringUpConfig) :
    ProcessorTable → List ApMove → BringUp → ProcessorTable → Prop
  /-- There are no other processors. -/
  | alone {t t' : ProcessorTable} {ms : List ApMove} (few : t.size < 2)
      (reports : Performs [.line] t ms t') : Course cfg t ms .singleProcessor t'
  /-- The positions from 1 on are swept once, and a summary is logged. -/
  | swept {t t₁ t' : ProcessorTable} {ms ms' : List ApMove} {started abandoned : Nat}
      (several : 2 ≤ t.size) (sweep : Sweep cfg (t.size - 1) 1 t ms started abandoned t₁)
      (reports : Performs [.line] t₁ ms' t') :
      Course cfg t (ms ++ ms') (.completed { processors := t.size, started, abandoned }) t'

end Interrupts
