import Interrupts.Poll

/-!
# Waits on the number of checks

The condition of such a wait depends on nothing but how often it was checked, which is enough to see
how many checks and relaxing steps a budget allows.
-/

namespace Interrupts.Sim

/-- What a wait has done so far. -/
structure WaitCount where
  checks : Nat := 0
  relaxed : Nat := 0
  deriving DecidableEq, Repr

/-- **Wait until `holds` is true of the number of checks.** -/
def countedWait (budget : Budget) (holds : Nat → Bool) : Except SpinTimeout UInt32 × WaitCount :=
  let check : StateM WaitCount Bool := do
    modify fun c => { c with checks := c.checks + 1 }
    pure (holds (← get).checks)
  let relax : StateM WaitCount Unit := modify fun c => { c with relaxed := c.relaxed + 1 }
  (budget.wait check relax).run {}

end Interrupts.Sim
