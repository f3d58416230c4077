import Interrupts.OneShot
import Interrupts.Sim.Bench

/-!
# A cell to try one-shot initialisation on

Each attempt to fill the cell notes how the cell looked from inside the initialiser, which may itself
make another attempt.
-/

namespace Interrupts.Sim

/-- **How an attempt goes about it.** -/
inductive CellAttempt where
  /-- With an initialiser that cannot fail. -/
  | init
  /-- With one that could fail and does not. -/
  | succeed
  /-- With one that fails. -/
  | fail
  deriving DecidableEq, Repr

/-- What an initialiser saw: the cell, and what became of an attempt from inside. -/
structure CellSighting where
  cell : OneShot Nat
  nested : Option (Except (InitError Nat) Nat) := none

/-- **A cell**, and what the last initialiser saw, if one ran. -/
structure CellRig where
  cell : OneShot Nat := .unclaimed
  inside : Option CellSighting := none

namespace CellRig

/-- The cell, as a place in the state of a bench. -/
def slot : Slot (BenchM CellRig) Nat where
  look := do pure (← get).device.cell
  put c := BenchM.stepDevice fun r => { r with cell := c }

/-- Forget what an initialiser saw. -/
def forget (r : CellRig) : CellRig :=
  { r with inside := none }

/-- Fill the cell with a value that cannot fail. -/
def fill (initialiser : BenchM CellRig Nat) : BenchM CellRig (Except (InitError Nat) Nat) := do
  match ← slot.init initialiser with
  | some value => pure (.ok value)
  | none => pure (.error .alreadyInitialized)

/-- The value that an attempt from inside brings. -/
def nestedValue : Nat := 77

/-- The initialiser notes what it sees, and may try to fill the cell itself. -/
def note (nested : Bool) : BenchM CellRig Unit := do
  let cell ← slot.look
  let inner ← if nested then some <$> fill (pure nestedValue) else pure none
  BenchM.stepDevice fun r => { r with inside := some { cell, nested := inner } }

/-- **Try to fill the cell**, or let the initialiser fail with the value. -/
def attempt (how : CellAttempt) (value : Nat) (nested : Bool) :
    BenchM CellRig (Except (InitError Nat) Nat) :=
  match how with
  | .init => fill do
    note nested
    pure value
  | .succeed => slot.tryInit do
    note nested
    pure (.ok value)
  | .fail => slot.tryInit do
    note nested
    pure (.error value)

end CellRig

end Interrupts.Sim
