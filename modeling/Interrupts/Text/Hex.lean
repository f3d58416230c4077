/-!
# Hexadecimal text

Addresses, selectors and register values are reported in lower-case hexadecimal with the fewest
digits that denote the number, so zero is the single digit `0`. `hex` gives the digits alone and
`hex0x` puts the usual `0x` in front of them.
-/

namespace Interrupts

/-- The digits of `n` in base sixteen, most significant first and without leading zeros. -/
def hex (n : Nat) : String :=
  String.ofList (Nat.toDigits 16 n)

/-- The digits of `n` in base sixteen behind `0x`. -/
def hex0x (n : Nat) : String :=
  "0x" ++ hex n

/-- The value of a lower-case hexadecimal digit. -/
def hexDigit (c : Char) : Nat :=
  if c.isDigit then c.toNat - '0'.toNat else c.toNat - 'a'.toNat + 10

/-- The decimal digits of `n`, filled up with zeros on the left to at least three places. -/
def threePlaces (n : Nat) : String :=
  let digits := toString n
  String.ofList (List.replicate (3 - digits.length) '0') ++ digits

end Interrupts
