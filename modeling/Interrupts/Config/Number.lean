import Interrupts.Text.Blank

/-!
# Numbers of the command line

A number is written in decimal, or in hexadecimal behind `0x` or `0X`. Underscores may stand
anywhere among the digits, but there has to be a digit, and a number that does not fit 32 bits is
no number: it never wraps.
-/

namespace Interrupts.Number

/-- The value of a digit in the given base, ten or sixteen. -/
def digit? (base : Nat) (c : Char) : Option Nat :=
  let n := c.toNat
  if '0'.toNat ≤ n ∧ n ≤ '9'.toNat then some (n - '0'.toNat)
  else if base = 16 ∧ 'a'.toNat ≤ n ∧ n ≤ 'f'.toNat then some (n - 'a'.toNat + 10)
  else if base = 16 ∧ 'A'.toNat ≤ n ∧ n ≤ 'F'.toNat then some (n - 'A'.toNat + 10)
  else none

/-- The number, if it fits 32 bits. -/
def fit? (n : Nat) : Option Nat :=
  if n < UInt32.size then some n else none

/-- Append the digits `cs` to the number `acc`, skipping underscores. -/
def digits? (base : Nat) : (acc : Nat) → List Char → Option Nat
  | acc, [] => some acc
  | acc, c :: cs =>
    if c = '_' then digits? base acc cs
    else do
      let scaled ← fit? (acc * base)
      let d ← digit? base c
      let next ← fit? (scaled + d)
      digits? base next cs

/-- The base of a number and the text of its digits. -/
def split (text : List Char) : Nat × List Char :=
  match text with
  | '0' :: 'x' :: digits => (16, digits)
  | '0' :: 'X' :: digits => (16, digits)
  | digits => (10, digits)

/-- **The number a text denotes**, if it denotes one of 32 bits. -/
def parse? (text : List Char) : Option UInt32 :=
  let (base, digits) := split text
  if digits.all (· == '_') then none
  else (digits? base 0 digits).map UInt32.ofNat

end Interrupts.Number
