/-!
# One-shot initialisation

A singleton is set up at most once. Its cell is claimed by the first attempt, which runs the
initialiser; whatever becomes of that attempt, every other one is refused, whether it comes later
or from inside the initialiser. The value can be read once the attempt has returned one, and a
failed attempt leaves the cell claimed and empty for good.

`OneShot` is the cell, and `Slot` is a place in a larger state where one is kept, so that the
initialiser itself can look at the cell while it runs.
-/

namespace Interrupts

/-- **A cell that is filled at most once.** -/
inductive OneShot (α : Type) where
  /-- Nobody tried yet. -/
  | unclaimed
  /-- An initialiser is running. -/
  | running
  /-- The initialiser returned this value. -/
  | ready (value : α)
  /-- The initialiser failed. -/
  | failed
  deriving DecidableEq, Repr, Inhabited

namespace OneShot

variable {α : Type}

/-- The value, once there is one. -/
def get? : OneShot α → Option α
  | ready a => some a
  | _ => none

/-- There is a value. -/
def isReady : OneShot α → Bool
  | ready _ => true
  | _ => false

/-- Some attempt has started. -/
def isClaimed : OneShot α → Bool
  | unclaimed => false
  | _ => true

/-- The values released when the cell itself goes away. -/
def released : OneShot α → List α
  | ready a => [a]
  | _ => []

end OneShot

/-- **Why an attempt did not produce a value.** -/
inductive InitError (ε : Type) where
  /-- Another attempt came first. -/
  | alreadyInitialized
  /-- The initialiser failed. -/
  | failed (error : ε)
  deriving DecidableEq, Repr

/-- The error as it is written in reports. -/
def InitError.describe {ε : Type} [ToString ε] : InitError ε → String
  | alreadyInitialized => "AlreadyInitialized"
  | failed e => s!"Failed({e})"

instance {ε : Type} [ToString ε] : ToString (InitError ε) := ⟨InitError.describe⟩

/-- A cell kept inside the state of a monad. -/
structure Slot (m : Type → Type) (α : Type) where
  /-- Look at the cell. -/
  look : m (OneShot α)
  /-- Replace the cell. -/
  put : OneShot α → m Unit

namespace Slot

variable {m : Type → Type} [Monad m] {α ε : Type}

/-- **Fill the cell with what an initialiser returns**, unless it is claimed already, in which
case the initialiser does not run and the cell stays as it is. -/
def tryInit (slot : Slot m α) (initialiser : m (Except ε α)) : m (Except (InitError ε) α) := do
  if (← slot.look).isClaimed then
    pure (.error .alreadyInitialized)
  else do
    slot.put .running
    match ← initialiser with
    | .ok a => do
      slot.put (.ready a)
      pure (.ok a)
    | .error e => do
      slot.put .failed
      pure (.error (.failed e))

/-- Fill the cell with the value of an initialiser that cannot fail; `none` when it is claimed
already. -/
def init (slot : Slot m α) (initialiser : m α) : m (Option α) := do
  match ← slot.tryInit (ε := Empty) (Except.ok <$> initialiser) with
  | .ok a => pure (some a)
  | .error _ => pure none

end Slot

end Interrupts
