import Interrupts.Text.Blank

/-!
# Log levels and log lines

Every message of the interrupt core has one of five levels, and a line is let through when its
level is at most as talkative as the current one. Code that has something to say only asks for a
`Logger`; what becomes of a line (dropped, captured, sent over the serial port) is decided where
the monad is chosen. The text of a line is always built before it is filtered, so building it may
read registers and may stop the machine even when the line itself is dropped.
-/

namespace Interrupts

/-- **How talkative a line is**, from the failures that stop the machine to single steps. -/
inductive Level where
  | error
  | warn
  | info
  | debug
  | trace
  deriving DecidableEq, Repr, Inhabited

namespace Level

/-- The levels in order, the least talkative first. -/
def all : List Level :=
  [error, warn, info, debug, trace]

/-- The level of a machine that was not told otherwise. -/
def standard : Level :=
  info

/-- The position of a level in that order. -/
def rank : Level → Nat
  | error => 0
  | warn => 1
  | info => 2
  | debug => 3
  | trace => 4

/-- A line of level `line` passes when the current level is `self`. -/
def passes (current line : Level) : Bool :=
  line.rank ≤ current.rank

/-- The level's name in reports. -/
def name : Level → String
  | error => "Error"
  | warn => "Warn"
  | info => "Info"
  | debug => "Debug"
  | trace => "Trace"

/-- The spellings of the levels on the command line; `warning` is a second one for `warn`. -/
def spellings : List (String × Level) :=
  [("error", error), ("warn", warn), ("warning", warn), ("info", info), ("debug", debug),
    ("trace", trace)]

/-- **The level a word names**, in any mixture of upper and lower case. -/
def ofName? (word : List Char) : Option Level :=
  (spellings.find? fun s => Text.sameLetters word s.1.toList).map Prod.snd

end Level

/-- One line with its level. -/
structure Record where
  /-- How talkative the line is. -/
  level : Level
  /-- The line, without an end of line. -/
  text : String
  deriving DecidableEq, Repr

/-- A monad in which lines can be logged. -/
class Logger (m : Type → Type) where
  /-- Offer one line at the given level. -/
  log : Level → String → m Unit

export Logger (log)

/-- Log a list of lines in order. -/
def logAll {m : Type → Type} [Monad m] [Logger m] : List Record → m Unit
  | [] => pure ()
  | r :: rs => do
    log r.level r.text
    logAll rs

end Interrupts
