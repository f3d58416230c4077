import Mathlib.Algebra.Group.Int.Defs
import Mathlib.Algebra.Group.Nat.Defs

/-!
# Checked arithmetic

Words wrap without a word. To say that a computation never makes them wrap, it is written down a
second time, on whole numbers: after each sum, difference and product the number is asked whether a
word of the width at hand holds it, and each divisor whether it is zero. The checked computation has
a result where nothing went wrong on the way, and only there.
-/

namespace Interrupts

/-- **The number, if words of this width hold it.** -/
def held (bits : Nat) (n : Int) : Option Int :=
  if 0 ≤ n ∧ n < 2 ^ bits then some n else none

theorem held_of_lt {bits : Nat} {n : Int} (hnonneg : 0 ≤ n) (hlt : n < 2 ^ bits) :
    held bits n = some n :=
  if_pos ⟨hnonneg, hlt⟩

theorem held_natCast {bits n : Nat} (h : n < 2 ^ bits) : held bits (n : Int) = some (n : Int) :=
  held_of_lt (Int.natCast_nonneg n) (by exact_mod_cast h)

/-- **The quotient, if there is one.** -/
def quotient? (a b : Nat) : Option Nat :=
  if b = 0 then none else some (a / b)

theorem quotient?_of_ne {a b : Nat} (h : b ≠ 0) : quotient? a b = some (a / b) :=
  if_neg h

end Interrupts
