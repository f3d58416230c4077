import Interrupts.Frame
import Interrupts.Stop

/-!
# The exception table

Every exception vector has room for one handler. Registering a handler replaces the one before;
vectors that nobody may claim are refused. An exception that finds no handler, or whose handler
gives up, or that is fatal whatever is registered, ends in a report of the frame as it arrived.

A handler may change the whole frame, and it may register and remove handlers itself, for its own
vector too. What it does is described step by step by a `Reaction`; the handler that is run is the
one that was registered when the exception arrived, whatever its own steps do to the table.
-/

namespace Interrupts

/-- **Why a handler cannot be registered or removed.** -/
inductive ExceptionError where
  /-- The vector is not one of the exceptions. -/
  | notAnException (vector : UInt8)
  /-- Nobody may claim this exception. -/
  | critical (vector : UInt8)
  deriving DecidableEq, Repr

/-- The error as it is written in reports. -/
def ExceptionError.describe : ExceptionError → String
  | notAnException v => s!"NotAnException({v.toNat})"
  | critical v => s!"Critical({v.toNat})"

instance : ToString ExceptionError := ⟨ExceptionError.describe⟩

/-- **What a handler decided.** -/
inductive ExceptionAction where
  /-- The fault is resolved; the interrupted program goes on. -/
  | handled
  /-- The fault is fatal. -/
  | escalate
  deriving DecidableEq, Repr

/-- **What became of an exception.** -/
inductive ExceptionOutcome where
  | handled
  | fatal (report : FatalReport)
  deriving DecidableEq, Repr

/-- **What a handler does, step by step**: changes of the table, each followed by what it does
about their success or failure, and in the end a decision and the frame to go on with. -/
inductive Reaction (E : Type) where
  /-- The handler is done. -/
  | decide (action : ExceptionAction) (frame : Frame)
  /-- The handler registers a handler. -/
  | install (vector : UInt8) (handler : E) (next : Except ExceptionError Unit → Reaction E)
  /-- The handler removes a handler. -/
  | remove (vector : UInt8) (next : Except ExceptionError Unit → Reaction E)

/-- A type of handlers of exceptions. -/
class FaultHandler (E : Type) where
  /-- What a handler does about a frame. -/
  react : E → Frame → Reaction E

/-- **The exception table**: the handler of each exception, if there is one. -/
structure ExceptionTable (E : Type) where
  slots : Vector (Option E) 32

namespace ExceptionTable

variable {E : Type}

/-- The table without any handler. -/
def empty : ExceptionTable E :=
  ⟨Vector.replicate 32 none⟩

/-- **The handler of a vector.** -/
def handler? (t : ExceptionTable E) (v : UInt8) : Option E :=
  (t.slots[v.toNat]?).getD none

/-- The vector has a handler. -/
def isRegistered (t : ExceptionTable E) (v : UInt8) : Bool :=
  (t.handler? v).isSome

/-- Whether a handler of a vector may be registered or removed. -/
def checkVector (v : UInt8) : Except ExceptionError Unit :=
  if Vectors.exceptionCount ≤ v.toNat then .error (.notAnException v)
  else if Vectors.isAlwaysFatal v ∨ Vectors.isReserved v then .error (.critical v)
  else .ok ()

/-- Fill or empty the slot of a vector. -/
def setSlot (t : ExceptionTable E) (v : UInt8) (slot : Option E) : ExceptionTable E :=
  ⟨t.slots.setIfInBounds v.toNat slot⟩

/-- **Register a handler**, in place of the one before. -/
def install (t : ExceptionTable E) (v : UInt8) (h : E) : Except ExceptionError (ExceptionTable E) :=
  (checkVector v).map fun _ => t.setSlot v (some h)

/-- **Remove the handler of a vector**, if it has one. -/
def remove (t : ExceptionTable E) (v : UInt8) : Except ExceptionError (ExceptionTable E) :=
  (checkVector v).map fun _ => t.setSlot v none

/-- The line logged about a registration. -/
def installLine (t : ExceptionTable E) (v : UInt8) : Record :=
  match checkVector v with
  | .error _ =>
    ⟨.info, s!"EXCEPTION: Refusing handler for vector {v.toNat} ({Vectors.exceptionName v})"⟩
  | .ok () =>
    if t.isRegistered v then ⟨.debug, s!"EXCEPTION: Replaced handler for vector {v.toNat}"⟩
    else
      ⟨.debug, s!"EXCEPTION: Installed handler for vector {v.toNat} ({Vectors.exceptionName v})"⟩

/-- The report of a fatal exception, as its frame arrived. -/
def report (f : Frame) (cpu : Nat) (reason : FatalReason) : FatalReport where
  vector := f.vectorByte
  name := Vectors.exceptionName f.vectorByte
  cpu := cpu
  errorCode := f.errorCode
  rip := f.rip
  reason := reason

/-- **Who is to look at an exception**: a handler, or nobody and for what reason. -/
def claimant (t : ExceptionTable E) (v : UInt8) : Except FatalReason E :=
  if Vectors.isAlwaysFatal v then .error .alwaysFatal
  else if Vectors.isReserved v then .error .reserved
  else match t.handler? v with
    | none => .error .unhandled
    | some h => .ok h

section Run

variable {m : Type → Type} [Monad m] [Logger m] [MonadStateOf (ExceptionTable E) m]

/-- Register a handler in the table the monad keeps. -/
def installHere (v : UInt8) (h : E) : m (Except ExceptionError Unit) := do
  let t ← getThe (ExceptionTable E)
  let line := t.installLine v
  match t.install v h with
  | .error e => do
    log line.level line.text
    pure (.error e)
  | .ok t' => do
    set t'
    log line.level line.text
    pure (.ok ())

variable (E) in
/-- Remove a handler from the table the monad keeps. -/
def removeHere (v : UInt8) : m (Except ExceptionError Unit) := do
  let t ← getThe (ExceptionTable E)
  match t.remove v with
  | .error e => pure (.error e)
  | .ok t' => do
    set t'
    pure (.ok ())

/-- Carry out what a handler does. -/
def carryOut : Reaction E → m (ExceptionAction × Frame)
  | .decide action frame => pure (action, frame)
  | .install v h next => do
    let r ← installHere v h
    carryOut (next r)
  | .remove v next => do
    let r ← removeHere E v
    carryOut (next r)

variable (E) in
/-- **Route one exception** to the handler that is registered for it now. -/
def dispatch [FaultHandler E] (f : Frame) (cpu : Nat) : m (ExceptionOutcome × Frame) := do
  let t ← getThe (ExceptionTable E)
  match t.claimant f.vectorByte with
  | .error reason => pure (.fatal (report f cpu reason), f)
  | .ok h => do
    let (action, f') ← carryOut (FaultHandler.react h f)
    match action with
    | .handled => pure (.handled, f')
    | .escalate => pure (.fatal (report f cpu .escalated), f')

variable (E) in
/-- Route one exception, and feed a fatal report with the frame left behind to `onFatal`. -/
def handle [FaultHandler E] (f : Frame) (cpu : Nat) (onFatal : FatalReport → Frame → m Unit) :
    m (ExceptionOutcome × Frame) := do
  let (outcome, f') ← dispatch E f cpu
  match outcome with
  | .handled => pure (outcome, f')
  | .fatal r => do
    onFatal r f'
    pure (outcome, f')

end Run

end ExceptionTable

end Interrupts
