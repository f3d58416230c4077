/-!
# Bounded polling

Every wait on hardware has a budget of polls, and running out of it is an ordinary answer. The
condition is checked once before each relaxing step and once more after the last one, so a
condition that the last step makes true is still seen: with a budget of `n` there are at most `n`
steps and `n + 1` checks.
-/

namespace Interrupts

/-- **The number of relaxing steps a wait may take.** -/
structure Budget where
  /-- The number of steps. -/
  polls : UInt32
  deriving DecidableEq, Repr

/-- The answer of a wait whose condition never held. -/
structure SpinTimeout where
  /-- The budget that was used up. -/
  polls : UInt32
  deriving DecidableEq, Repr

/-- The timeout as it is written in reports. -/
def SpinTimeout.describe (t : SpinTimeout) : String :=
  s!"SpinTimeout \x7b polls: {t.polls.toNat} \x7d"

instance : ToString SpinTimeout := ⟨SpinTimeout.describe⟩

namespace Budget

/-- The budget as it is written in reports. -/
def describe (b : Budget) : String :=
  s!"SpinPolicy \x7b max_polls: {b.polls.toNat} \x7d"

/-- The budget for a Local APIC to accept a command. -/
def ipiDelivery : Budget := ⟨100000⟩

/-- The budget for a processor to report itself online after a STARTUP. -/
def apStartup : Budget := ⟨2000000⟩

/-- Check and relax in turn, with `left` steps to go after `taken` ones. Answers the number of
steps taken when the condition first held. -/
@[specialize] def poll {m : Type → Type} [Monad m] (check : m Bool) (relax : m Unit) :
    (left taken : Nat) → m (Option Nat)
  | 0, taken => do
    let held ← check
    pure (if held then some taken else none)
  | left + 1, taken => do
    let held ← check
    if held then
      pure (some taken)
    else do
      relax
      poll check relax left (taken + 1)

/-- **Wait for a condition**, relaxing between checks. Answers the number of relaxing steps taken
before the condition held, or a timeout when it did not hold within the budget. -/
@[inline] def wait {m : Type → Type} [Monad m] (b : Budget) (check : m Bool) (relax : m Unit) :
    m (Except SpinTimeout UInt32) := do
  match ← poll check relax b.polls.toNat 0 with
  | some taken => pure (.ok (UInt32.ofNat taken))
  | none => pure (.error ⟨b.polls⟩)

end Budget

end Interrupts
