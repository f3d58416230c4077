import Mathlib.Algebra.Group.Nat.Defs
import Mathlib.Logic.Function.Basic
import Interrupts.LocalApic.Timer

/-!
# How the timer of the Local APIC is set up

What is done to the timer is a list of events: registers are written and read, and delays pass. What
the registers hold at any time follows from the writes before (`TimerRegisters.after`), and how the
timer is set up follows from what they hold (`TimerSetup.of`).

A measuring window keeps the timer masked while it passes, and stopped after it; arming makes the
timer periodic. Neither depends on what the registers held before.
-/

namespace Interrupts

/-! ## Events and registers -/

/-- **What happens at the timer.** -/
inductive TimerEvent where
  | write (register : UInt64) (value : UInt32)
  | read (register : UInt64) (value : UInt32)
  /-- A delay passes. -/
  | wait (ms : UInt32)
  deriving DecidableEq, Repr

/-- What was read, if this is a reading. -/
def TimerEvent.reading? : TimerEvent → Option UInt32
  | .read _ value => some value
  | .write _ _ => none
  | .wait _ => none

/-- **How the timer counts.** -/
inductive TimerMode where
  | oneShot
  | periodic
  | deadline
  | reserved
  deriving DecidableEq, Repr

/-- **A setup of the timer**: what it delivers, how it counts, from where, and how many times slower
than the bus. -/
structure TimerSetup where
  /-- The vector that is delivered when the count has run out. -/
  vector : UInt8
  /-- Nothing is delivered at all. -/
  masked : Bool
  mode : TimerMode
  /-- The count to begin with; zero stops the timer. -/
  initial : UInt32
  /-- How many cycles of the bus make one step of the count. -/
  divider : Nat
  deriving DecidableEq, Repr

/-- **What the registers of a page were last written.** -/
abbrev TimerRegisters := UInt64 → UInt32

open LocalApic (timerEntry timerDivide timerInitial timerCurrent)

/-- The mode in bits 17 and 18 of the timer's entry. -/
def TimerMode.ofEntry (entry : UInt32) : TimerMode :=
  match entry.toNat / 2 ^ 17 % 4 with
  | 0 => oneShot
  | 1 => periodic
  | 2 => deadline
  | _ => reserved

namespace TimerSetup

/-- The divider that bits 0, 1 and 3 of its register stand for: a power of two, with the largest
code for not dividing at all. -/
def dividerOf (divide : UInt32) : Nat :=
  2 ^ ((divide.toNat % 4 + 4 * (divide.toNat / 8 % 2) + 1) % 8)

/-- The setup that these values of three registers make. -/
def ofWords (entry divide initial : UInt32) : TimerSetup where
  vector := entry.toUInt8
  masked := entry.toNat.testBit 16
  mode := .ofEntry entry
  initial := initial
  divider := dividerOf divide

/-- **How the timer is set up by its registers.** -/
def of (f : TimerRegisters) : TimerSetup :=
  ofWords (f timerEntry) (f timerDivide) (f timerInitial)

/-- Masked, counting down once from the largest count, at a sixteenth of the bus clock. -/
def measuring : TimerSetup where
  vector := 0
  masked := true
  mode := .oneShot
  initial := 0xffffffff
  divider := 16

end TimerSetup

namespace TimerRegisters

/-- What the registers hold after an event. -/
def step (f : TimerRegisters) : TimerEvent → TimerRegisters
  | .write r v => Function.update f r v
  | .read _ _ => f
  | .wait _ => f

/-- **What the registers hold after events.** -/
def after (f : TimerRegisters) (es : List TimerEvent) : TimerRegisters :=
  es.foldl step f

/-- **The delays among events**, each with the setup of the timer while it passes. -/
def waits (f : TimerRegisters) : List TimerEvent → List (UInt32 × TimerSetup)
  | [] => []
  | .wait ms :: es => (ms, .of f) :: f.waits es
  | e :: es => (f.step e).waits es

variable (f : TimerRegisters) (es es' : List TimerEvent)

theorem after_append : f.after (es ++ es') = (f.after es).after es' :=
  List.foldl_append

/-- The waits of a concatenation are those of the first part, and then those of the second from the
registers it left. -/
theorem waits_append : f.waits (es ++ es') = f.waits es ++ (f.after es).waits es' := by
  induction es generalizing f with
  | nil => rfl
  | cons e es ih =>
    cases e with
    | write r v => exact ih (f.step (.write r v))
    | read r v => exact ih f
    | wait ms => exact congrArg ((ms, .of f) :: ·) (ih f)

end TimerRegisters

namespace LocalApic

/-- **The events of a window** at whose end this count is found. -/
def windowEvents (count : UInt32) : List TimerEvent :=
  [.write timerEntry maskedEntry, .write timerDivide divideBy16, .write timerInitial 0xffffffff,
    .wait windowMs, .read timerCurrent count, .write timerInitial 0]

/-- **The events that arm the timer.** -/
def armingEvents (vector : UInt8) (count : UInt32) : List TimerEvent :=
  [.write timerDivide divideBy16, .write timerEntry (vector.toUInt32 ||| periodicBit),
    .write timerInitial count]

variable (f : TimerRegisters)

/-- The three registers of a setup are three. -/
theorem setupRegisters_ne :
    timerEntry ≠ timerDivide ∧ timerEntry ≠ timerInitial ∧ timerDivide ≠ timerInitial := by
  decide

theorem ofWords_maskedEntry (initial : UInt32) : TimerSetup.ofWords maskedEntry divideBy16 initial
    = { TimerSetup.measuring with initial } := by
  unfold TimerSetup.ofWords
  congr 1

/-- **A window is ten milliseconds long**, and the timer counts once and is masked. -/
theorem waits_windowEvents (count : UInt32) :
    f.waits (windowEvents count) = [(10, .measuring)] := by
  obtain ⟨hdivide, hinitial, hne⟩ := setupRegisters_ne
  simp only [windowEvents, TimerRegisters.waits, TimerRegisters.step, TimerSetup.of,
    Function.update_self, Function.update_of_ne hdivide, Function.update_of_ne hinitial,
    Function.update_of_ne hne, ofWords_maskedEntry]
  rfl

/-- **It leaves the timer masked and stopped.** -/
theorem of_after_windowEvents (count : UInt32) :
    TimerSetup.of (f.after (windowEvents count)) = { TimerSetup.measuring with initial := 0 } := by
  obtain ⟨hdivide, hinitial, hne⟩ := setupRegisters_ne
  simp only [windowEvents, TimerRegisters.after, List.foldl_cons, List.foldl_nil,
    TimerRegisters.step, TimerSetup.of, Function.update_self, Function.update_of_ne hdivide,
    Function.update_of_ne hinitial, Function.update_of_ne hne, ofWords_maskedEntry]

/-- All windows are alike, whatever is counted in them. -/
theorem waits_windows (counts : List UInt32) : f.waits (counts.flatMap windowEvents)
    = List.replicate counts.length (10, .measuring) := by
  induction counts generalizing f with
  | nil => rfl
  | cons count counts ih =>
    rw [List.flatMap_cons, TimerRegisters.waits_append, waits_windowEvents, ih, List.length_cons,
      List.replicate_succ]
    rfl

/-- **What is read in windows** are the counts at their ends. -/
theorem readings_windows (counts : List UInt32) :
    (counts.flatMap windowEvents).filterMap TimerEvent.reading? = counts := by
  induction counts with
  | nil => rfl
  | cons count counts ih =>
    rw [List.flatMap_cons, List.filterMap_append, ih]
    rfl

/-- The vector and the bit for the mode do not meet. -/
theorem toNat_periodicEntry (vector : UInt8) :
    (vector.toUInt32 ||| periodicBit).toNat = 2 ^ 17 + vector.toNat := by
  have hvector : vector.toNat < 2 ^ 17 := Nat.lt_of_lt_of_le vector.toNat_lt (by decide)
  have hdisjoint := Nat.two_pow_add_eq_or_of_lt hvector 1
  rw [UInt32.toNat_or, UInt8.toNat_toUInt32, Nat.or_comm,
    show periodicBit.toNat = 2 ^ 17 * 1 from rfl, ← hdisjoint, Nat.mul_one]

/-- The words of an armed timer say that it is unmasked, periodic and counting in sixteenths. -/
theorem ofWords_periodicEntry (vector : UInt8) (count : UInt32) :
    TimerSetup.ofWords (vector.toUInt32 ||| periodicBit) divideBy16 count
      = ⟨vector, false, .periodic, count, 16⟩ := by
  have hlt := vector.toNat_lt
  have hentry := toNat_periodicEntry vector
  -- the periodic bit stands above the vector, so each field is read off the sum
  have hvector : (vector.toUInt32 ||| periodicBit).toUInt8 = vector := by
    refine UInt8.toNat_inj.mp ?_
    rw [UInt32.toNat_toUInt8, hentry]
    omega
  have hmasked : (vector.toUInt32 ||| periodicBit).toNat.testBit 16 = false := by
    rw [hentry, Nat.testBit_eq_decide_div_mod_eq, decide_eq_false_iff_not]
    omega
  have hmode : TimerMode.ofEntry (vector.toUInt32 ||| periodicBit) = .periodic := by
    rw [TimerMode.ofEntry, hentry, show (2 ^ 17 + vector.toNat) / 2 ^ 17 % 4 = 1 by omega]
    rfl
  rw [TimerSetup.ofWords, hvector, hmasked, hmode]
  rfl

/-- **Arming makes the timer interrupt periodically** on the vector, from the count. -/
theorem of_after_armingEvents (vector : UInt8) (count : UInt32) :
    TimerSetup.of (f.after (armingEvents vector count))
      = ⟨vector, false, .periodic, count, 16⟩ := by
  obtain ⟨hdivide, hinitial, hne⟩ := setupRegisters_ne
  simp only [armingEvents, TimerRegisters.after, List.foldl_cons, List.foldl_nil,
    TimerRegisters.step, TimerSetup.of, Function.update_self, Function.update_of_ne hdivide.symm,
    Function.update_of_ne hinitial, Function.update_of_ne hne, ofWords_periodicEntry]

end LocalApic

end Interrupts
