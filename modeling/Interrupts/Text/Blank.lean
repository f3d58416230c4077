/-!
# Blank characters and words

A command line is cut into words at every character with the Unicode property `White_Space`.
`isBlank` is that property, and `words` is the list of the maximal blank-free runs, in order.
-/

namespace Interrupts.Text

/-- **The characters of Unicode's `White_Space` property**: the six ASCII ones, next line, the
no-break spaces, the typographic spaces and the line and paragraph separators. -/
def isBlank (c : Char) : Bool :=
  let n := c.toNat
  (0x09 ≤ n && n ≤ 0x0d) || n == 0x20 || n == 0x85 || n == 0xa0 || n == 0x1680 ||
    (0x2000 ≤ n && n ≤ 0x200a) || n == 0x2028 || n == 0x2029 || n == 0x202f || n == 0x205f ||
    n == 0x3000

/-- Close the run `run`, which is held in reverse, unless it is empty. -/
def closeRun (run : List Char) (rest : List (List Char)) : List (List Char) :=
  if run.isEmpty then rest else run.reverse :: rest

/-- The words of a line, given the word being read in reverse. -/
def wordsFrom (run : List Char) : List Char → List (List Char)
  | [] => closeRun run []
  | c :: cs => if isBlank c then closeRun run (wordsFrom [] cs) else wordsFrom (c :: run) cs

/-- **The words of a line**: its maximal runs of characters that are not blank, in order. -/
def words (line : List Char) : List (List Char) :=
  wordsFrom [] line

/-- What follows `start` in `text`, if `text` begins with it. -/
def after? : List Char → List Char → Option (List Char)
  | [], text => some text
  | _ :: _, [] => none
  | s :: start, c :: text => if s = c then after? start text else none

/-- Equality of two texts up to the case of the ASCII letters. -/
def sameLetters (a b : List Char) : Bool :=
  a.map Char.toLower == b.map Char.toLower

end Interrupts.Text
