import Mathlib.Algebra.Group.Action.Defs
import Mathlib.Algebra.GroupWithZero.Nat
import Mathlib.Algebra.Order.BigOperators.Group.List
import Mathlib.Algebra.Order.Group.Nat
import Mathlib.Data.List.Basic
import Interrupts.Proofs.Checked
import Interrupts.Proofs.Discipline
import Interrupts.Proofs.LocalApic.TimerSetup
import Interrupts.Sim.Bench

/-!
# Measuring the timer and arming it

A `TimerPage` is a page of registers that answers every read with whatever it likes, so the counts
that are found at the ends of the windows are arbitrary. On every page a measurement is three
windows (`TimerPage.runs_measure`), and its answer is the average of what they count. Arming the
timer takes three writes, if there is a count for the rate, or none.

The sums and quotients are made a second time with every step checked. That both agree says that no
step overflows.
-/

namespace Interrupts

namespace LocalApic

/-! ## What the counts come to -/

/-- How far the timer came in a window at whose end this count is found. -/
def elapsed (count : UInt32) : Nat :=
  2 ^ 32 - 1 - count.toNat

/-- The average over three windows, a fraction left out. -/
def average (c₁ c₂ c₃ : UInt32) : Nat :=
  (elapsed c₁ + elapsed c₂ + elapsed c₃) / 3

/-- The sum over windows, on top of a number. -/
def totalFrom (total : UInt64) (counts : List UInt32) : UInt64 :=
  counts.foldl (fun total count => total + (0xffffffff - count).toUInt64) total

/-- One window more, the difference and the sum checked. -/
def addElapsed? (total : Int) (count : UInt32) : Option Int := do
  let elapsed ← held 32 (0xffffffff - count.toNat)
  held 64 (total + elapsed)

/-- The sum over windows, all of it checked. -/
def totalFrom? (total : Int) (counts : List UInt32) : Option Int :=
  counts.foldlM addElapsed? total

/-- The rate over windows, every step checked. -/
def rateOver? (counts : List UInt32) : Option (Except TimerError Int) := do
  let total ← totalFrom? 0 counts
  let average := total / 3
  if average = 0 then some (.error .counterStalled)
  else do
    let scaled ← held 64 (average * 1000)
    some (.ok (scaled / 10))

/-- The initial count for a rate of the tick, every step checked. -/
def countFor? (hz : UInt32) (rate : UInt64) : Option (Except TimerError Int) :=
  if rate = 0 then some (.error .notCalibrated)
  else if hz = 0 then some (.error (.invalidFrequency hz))
  else do
    let count ← quotient? rate.toNat hz.toNat
    if count = 0 ∨ 0xffffffff < count then some (.error (.countOutOfRange (.ofNat count)))
    else do
      let count ← held 32 count
      some (.ok count)

section Arithmetic

variable {count : UInt32} {counts : List UInt32} {total : UInt64} {hz : UInt32} {rate : UInt64}

theorem elapsed_lt (count : UInt32) : elapsed count < 2 ^ 32 := by
  unfold elapsed
  omega

/-- The counter runs downward from all ones, so what it has counted is exact in the accumulating
word as well. -/
theorem toNat_elapsed (count : UInt32) : (0xffffffff - count).toUInt64.toNat = elapsed count := by
  have hle : count ≤ 0xffffffff := UInt32.le_iff_toNat_le.mpr (Nat.le_of_lt_succ count.toNat_lt)
  rw [UInt32.toNat_toUInt64, UInt32.toNat_sub_of_le _ _ hle]
  rfl

/-- One window added to the sum with the overflow checked: it goes well whenever the new sum fits in
the word. -/
theorem addElapsed?_eq {sum : Nat} (h : sum + elapsed count < 2 ^ 64) :
    addElapsed? sum count = some ((sum + elapsed count : Nat) : Int) := by
  have hcount := count.toNat_lt
  have hdifference : 0xffffffff - (count.toNat : Int) = (elapsed count : Int) := by
    unfold elapsed
    omega
  unfold addElapsed?
  rw [hdifference, held_natCast (elapsed_lt count), Option.bind_eq_bind, Option.bind_some,
    ← Int.natCast_add, held_natCast h]

/-- **The sum is exact**, since it fits. -/
theorem toNat_totalFrom (total : UInt64) (counts : List UInt32)
    (h : total.toNat + counts.length * 2 ^ 32 ≤ 2 ^ 64) :
    (totalFrom total counts).toNat = total.toNat + (counts.map elapsed).sum
      ∧ totalFrom? total.toNat counts
        = some ((total.toNat + (counts.map elapsed).sum : Nat) : Int) := by
  induction counts generalizing total with
  | nil => exact ⟨rfl, rfl⟩
  | cons count counts ih =>
    have hlt := elapsed_lt count
    rw [List.length_cons] at h
    -- the first window fits, so the wrapping sum and the checked one agree on it
    have hfits : total.toNat + elapsed count < 2 ^ 64 := by omega
    have hsum : (total + (0xffffffff - count).toUInt64).toNat = total.toNat + elapsed count := by
      rw [UInt64.toNat_add, toNat_elapsed, Nat.mod_eq_of_lt hfits]
    obtain ⟨htotal, hchecked⟩ :=
      ih (total + (0xffffffff - count).toUInt64) (by rw [hsum]; omega)
    rw [hsum] at htotal hchecked
    unfold totalFrom at htotal ⊢
    unfold totalFrom? at hchecked ⊢
    rw [List.map_cons, List.sum_cons, ← Nat.add_assoc, List.foldl_cons]
    refine ⟨htotal, ?_⟩
    rw [List.foldlM_cons, addElapsed?_eq hfits]
    exact hchecked

/-- No window counts more than the counter holds, which bounds the sum by the number of windows
alone. -/
theorem elapsed_sum_le (counts : List UInt32) :
    (counts.map elapsed).sum ≤ counts.length * (2 ^ 32 - 1) := by
  have hsum := List.sum_le_card_nsmul (counts.map elapsed) (2 ^ 32 - 1) fun n hn => by
    obtain ⟨count, -, rfl⟩ := List.mem_map.mp hn
    exact Nat.le_pred_of_lt (elapsed_lt count)
  rwa [List.length_map, smul_eq_mul] at hsum

/-- **The rate of a total** is a hundred times a third of it, unless that is nothing. -/
theorem rateOf_eq (h : total.toNat < 2 ^ 34) :
    rateOf total = if total.toNat / 3 = 0 then .error .counterStalled
      else .ok (.ofNat (100 * (total.toNat / 3))) := by
  have haverage : (total / 3).toNat = total.toNat / 3 := UInt64.toNat_div _ _
  have hzero : total / 3 = 0 ↔ total.toNat / 3 = 0 := by
    rw [← haverage, ← UInt64.toNat_inj]
    rfl
  -- `total < 2 ^ 34` leaves room for the multiplication by a thousand
  have hrate : total / 3 * 1000 / 10 = .ofNat (100 * (total.toNat / 3)) := by
    have hscaled : (total / 3 * 1000).toNat = total.toNat / 3 * 1000 := by
      rw [UInt64.toNat_mul, haverage, show (1000 : UInt64).toNat = 1000 from rfl,
        Nat.mod_eq_of_lt (by omega)]
    have hlt : 100 * (total.toNat / 3) < UInt64.size := by
      have hsize : UInt64.size = 2 ^ 64 := rfl
      omega
    refine UInt64.toNat_inj.mp ?_
    rw [UInt64.toNat_div, hscaled, UInt64.toNat_ofNat_of_lt' hlt,
      show (10 : UInt64).toNat = 10 from rfl]
    omega
  unfold rateOf
  dsimp only
  rw [hrate]
  exact if_congr hzero rfl rfl

/-- A hundred times an average of three windows fits in the word the rate is kept in. -/
theorem rate_three_lt (c₁ c₂ c₃ : UInt32) : 100 * average c₁ c₂ c₃ < UInt64.size := by
  have hsize : UInt64.size = 2 ^ 64 := rfl
  have h₁ := elapsed_lt c₁
  have h₂ := elapsed_lt c₂
  have h₃ := elapsed_lt c₃
  unfold average
  omega

/-- **The rate over three windows.** -/
theorem rateOf_three (c₁ c₂ c₃ : UInt32) : rateOf (totalFrom 0 [c₁, c₂, c₃])
    = if average c₁ c₂ c₃ = 0 then .error .counterStalled
      else .ok (.ofNat (100 * average c₁ c₂ c₃)) := by
  have hzero : (0 : UInt64).toNat = 0 := rfl
  have hlength : [c₁, c₂, c₃].length = 3 := rfl
  have hsum : ([c₁, c₂, c₃].map elapsed).sum = elapsed c₁ + elapsed c₂ + elapsed c₃ := by
    rw [List.map_cons, List.map_cons, List.map_cons, List.map_nil, List.sum_cons, List.sum_cons,
      List.sum_cons, List.sum_nil, Nat.add_zero, Nat.add_assoc]
  have htotal := (toNat_totalFrom 0 [c₁, c₂, c₃] (by rw [hzero, hlength]; decide)).1
  have hbound := elapsed_sum_le [c₁, c₂, c₃]
  rw [hsum, hlength] at hbound
  rw [hsum, hzero, Nat.zero_add] at htotal
  rw [rateOf_eq (by rw [htotal]; exact Nat.lt_of_le_of_lt hbound (by decide)), htotal]
  rfl

/-- **No step overflows** while a rate is worked out. -/
theorem rateOver?_eq (h : counts.length ≤ windows) : rateOver? counts
    = some ((rateOf (totalFrom 0 counts)).map fun rate => (rate.toNat : Int)) := by
  have hzero : (0 : UInt64).toNat = 0 := rfl
  have hle : counts.length ≤ 3 := h
  obtain ⟨htotal, hchecked⟩ :=
    toNat_totalFrom 0 counts (by rw [hzero]; omega)
  have hsum := elapsed_sum_le counts
  rw [hzero, Nat.zero_add] at htotal hchecked
  generalize (counts.map elapsed).sum = sum at htotal hchecked hsum
  -- three windows of thirty-two bits stay below `2 ^ 34`
  have hlt : (totalFrom 0 counts).toNat < 2 ^ 34 := by omega
  have haverage : (sum : Int) / 3 = ((sum / 3 : Nat) : Int) := rfl
  have hscaled :
      held 64 (((sum / 3 : Nat) : Int) * 1000) = some ((sum / 3 * 1000 : Nat) : Int) := by
    rw [← held_natCast (show sum / 3 * 1000 < 2 ^ 64 by omega)]
    exact congrArg (held 64) (Int.natCast_mul _ _).symm
  unfold rateOver?
  rw [show totalFrom? 0 counts = some (sum : Int) from hchecked, Option.bind_eq_bind,
    Option.bind_some, rateOf_eq hlt, htotal]
  dsimp only
  rw [haverage, hscaled, Option.bind_some]
  by_cases hstalled : sum / 3 = 0
  · rw [if_pos hstalled, if_pos (by rw [hstalled]; rfl)]
    rfl
  · have hrate : 100 * (sum / 3) < UInt64.size := by
      have hsize : UInt64.size = 2 ^ 64 := rfl
      omega
    rw [if_neg hstalled, if_neg (by omega), Except.map, UInt64.toNat_ofNat_of_lt' hrate]
    refine congrArg (fun rate => some (Except.ok rate)) ?_
    omega

/-- **The count for a rate**, and what is wrong where there is none. -/
theorem countFor_eq (hz : UInt32) (rate : UInt64) : countFor hz rate
    = if rate = 0 then .error .notCalibrated
      else if hz = 0 then .error (.invalidFrequency hz)
      else if 1 ≤ rate.toNat / hz.toNat ∧ rate.toNat / hz.toNat ≤ 2 ^ 32 - 1 then
        .ok (.ofNat (rate.toNat / hz.toNat))
      else .error (.countOutOfRange (.ofNat (rate.toNat / hz.toNat))) := by
  have hcount : (rate / hz.toUInt64).toNat = rate.toNat / hz.toNat := by
    rw [UInt64.toNat_div, UInt32.toNat_toUInt64]
  -- the two refused ranges of the word comparison, as one range of the quotient
  have hrange : (rate / hz.toUInt64 = 0 ∨ 0xffffffff < rate / hz.toUInt64)
      ↔ ¬(1 ≤ rate.toNat / hz.toNat ∧ rate.toNat / hz.toNat ≤ 2 ^ 32 - 1) := by
    rw [← UInt64.toNat_inj, UInt64.lt_iff_toNat_lt, hcount]
    show rate.toNat / hz.toNat = 0 ∨ 2 ^ 32 - 1 < rate.toNat / hz.toNat ↔ _
    omega
  unfold countFor
  dsimp only
  rw [if_congr hrange rfl rfl, ite_not, ← hcount, UInt64.ofNat_toNat]
  rfl

/-- **No step overflows**, and nothing is divided by zero, while a count is worked out. -/
theorem countFor?_eq (hz : UInt32) (rate : UInt64) :
    countFor? hz rate = some ((countFor hz rate).map fun count => (count.toNat : Int)) := by
  rw [countFor_eq]
  unfold countFor?
  by_cases hrate : rate = 0
  · rw [if_pos hrate, if_pos hrate]
    rfl
  by_cases hhz : hz = 0
  · rw [if_neg hrate, if_neg hrate, if_pos hhz, if_pos hhz]
    rfl
  have hne : hz.toNat ≠ 0 := fun h => hhz (UInt32.toNat_inj.mp h)
  rw [if_neg hrate, if_neg hrate, if_neg hhz, if_neg hhz, quotient?_of_ne hne, Option.bind_eq_bind,
    Option.bind_some]
  generalize rate.toNat / hz.toNat = count
  by_cases hrange : 1 ≤ count ∧ count ≤ 2 ^ 32 - 1
  · have hlt : count < 2 ^ 32 := by omega
    rw [if_pos hrange, if_neg (by omega), held_natCast hlt, Except.map,
      UInt32.toNat_ofNat_of_lt' hlt]
    rfl
  · rw [if_neg hrange, if_pos (by omega)]
    rfl

end Arithmetic

end LocalApic

/-! ## Pages of registers -/

/-- **A page of registers, and a delay**, that keep account of what happens. What a register shows
when it is read is up to the page. -/
structure TimerPage {R σ : Type} [RegisterBus R (EStateM Stop σ)] (a : LocalApic R)
    (delay : UInt32 → EStateM Stop σ Unit) where
  /-- The states in which the page can be accessed. -/
  ready : σ → Prop
  /-- What happened so far. -/
  events : σ → List TimerEvent
  /-- A write is recorded with its value. -/
  write : ∀ {s} (r : UInt64) (v : UInt32), ready s →
    ∃ s', a.write (m := EStateM Stop σ) r v s = .ok () s' ∧ ready s'
      ∧ events s' = events s ++ [.write r v]
  /-- A read is recorded with the value that it showed, which can be any. -/
  read : ∀ {s} (r : UInt64), ready s →
    ∃ v s', a.read (m := EStateM Stop σ) r s = .ok v s' ∧ ready s'
      ∧ events s' = events s ++ [.read r v]
  /-- A delay is recorded, and no access is made meanwhile. -/
  wait : ∀ {s} (ms : UInt32), ready s →
    ∃ s', delay ms s = .ok () s' ∧ ready s' ∧ events s' = events s ++ [.wait ms]

namespace TimerPage

open LocalApic

variable {R σ : Type} [RegisterBus R (EStateM Stop σ)] {a : LocalApic R}
  {delay : UInt32 → EStateM Stop σ Unit} (page : TimerPage a delay)

/-- **A computation returns this answer, and these are the events** on the way. -/
structure Runs {α : Type} (x : EStateM Stop σ α) (s : σ) (answer : α) (es : List TimerEvent)
    (s' : σ) : Prop where
  run : x s = .ok answer s'
  /-- The page can be accessed again afterwards. -/
  ready : page.ready s'
  events : page.events s' = page.events s ++ es

variable {page} {α β : Type} {x : EStateM Stop σ α} {f : α → EStateM Stop σ β} {answer : α}
  {answer' : β} {es es' : List TimerEvent} {s s' s'' : σ}

/-- The events of the first of two computations come first. -/
theorem Runs.bind (hx : page.Runs x s answer es s') (hf : page.Runs (f answer) s' answer' es' s'') :
    page.Runs (x >>= f) s answer' (es ++ es') s'' where
  run := (bind_of_ok hx.run).trans hf.run
  ready := hf.ready
  events := by rw [hf.events, hx.events, List.append_assoc]

theorem runs_pure (hs : page.ready s) (answer : α) : page.Runs (pure answer) s answer [] s where
  run := rfl
  ready := hs
  events := (List.append_nil _).symm

theorem runs_write (hs : page.ready s) (r : UInt64) (v : UInt32) :
    ∃ s', page.Runs (a.write r v) s () [.write r v] s' := by
  obtain ⟨s', hrun, hready, hevents⟩ := page.write r v hs
  exact ⟨s', hrun, hready, hevents⟩

theorem runs_read (hs : page.ready s) (r : UInt64) :
    ∃ v s', page.Runs (a.read r) s v [.read r v] s' := by
  obtain ⟨v, s', hrun, hready, hevents⟩ := page.read r hs
  exact ⟨v, s', hrun, hready, hevents⟩

theorem runs_wait (hs : page.ready s) (ms : UInt32) :
    ∃ s', page.Runs (delay ms) s () [.wait ms] s' := by
  obtain ⟨s', hrun, hready, hevents⟩ := page.wait ms hs
  exact ⟨s', hrun, hready, hevents⟩

/-- **One window.** -/
theorem runs_measureWindow (hs : page.ready s) : ∃ count s',
    page.Runs (a.measureWindow delay) s (0xffffffff - count) (windowEvents count) s' := by
  obtain ⟨s₁, hentry⟩ := runs_write hs timerEntry maskedEntry
  obtain ⟨s₂, hdivide⟩ := runs_write hentry.ready timerDivide divideBy16
  obtain ⟨s₃, hstart⟩ := runs_write hdivide.ready timerInitial 0xffffffff
  obtain ⟨s₄, hwait⟩ := runs_wait hstart.ready windowMs
  obtain ⟨count, s₅, hread⟩ := runs_read hwait.ready timerCurrent
  obtain ⟨s₆, hstop⟩ := runs_write hread.ready timerInitial 0
  exact ⟨count, s₆, hentry.bind (hdivide.bind (hstart.bind (hwait.bind (hread.bind
    (hstop.bind (runs_pure hstop.ready (0xffffffff - count)))))))⟩

/-- **Windows in a row.** -/
theorem runs_measureTotal (hs : page.ready s) (left : Nat) (total : UInt64) :
    ∃ counts s', counts.length = left
      ∧ page.Runs (a.measureTotal delay left total) s (totalFrom total counts)
        (counts.flatMap windowEvents) s' := by
  induction left generalizing s total with
  | zero => exact ⟨[], s, rfl, runs_pure hs total⟩
  | succ left ih =>
    obtain ⟨count, s₁, hwindow⟩ := runs_measureWindow hs
    obtain ⟨counts, s', hlength, hrest⟩ :=
      ih hwindow.ready (total + (0xffffffff - count).toUInt64)
    refine ⟨count :: counts, s', congrArg Nat.succ hlength, ?_⟩
    rw [measureTotal, totalFrom, List.foldl_cons, ← totalFrom, List.flatMap_cons]
    exact hwindow.bind hrest

/-- **A measurement is three windows**, and answers the rate over them. -/
theorem runs_measure (hs : page.ready s) : ∃ counts s', counts.length = windows
    ∧ page.Runs (a.measure delay) s (rateOf (totalFrom 0 counts)) (counts.flatMap windowEvents)
      s' := by
  obtain ⟨counts, s', hlength, htotal⟩ := runs_measureTotal hs windows 0
  exact ⟨counts, s', hlength, (bind_of_ok htotal.run).trans rfl, htotal.ready, htotal.events⟩

/-- **Arming the timer.** -/
theorem runs_programPeriodic (hs : page.ready s) (vector : UInt8) {hz : UInt32} {rate : UInt64}
    {count : UInt32} (hcount : countFor hz rate = .ok count) : ∃ s',
    page.Runs (a.programPeriodic vector hz rate) s (.ok count) (armingEvents vector count) s' := by
  obtain ⟨s₁, hdivide⟩ := runs_write hs timerDivide divideBy16
  obtain ⟨s₂, hentry⟩ := runs_write hdivide.ready timerEntry (vector.toUInt32 ||| periodicBit)
  obtain ⟨s₃, hinitial⟩ := runs_write hentry.ready timerInitial count
  refine ⟨s₃, ?_⟩
  unfold programPeriodic
  rw [hcount]
  exact hdivide.bind (hentry.bind (hinitial.bind (runs_pure hinitial.ready (Except.ok count))))

end TimerPage

namespace LocalApic

/-- **The timer is not touched when there is no count**, whatever is behind the registers. -/
theorem programPeriodic_of_error {R : Type} {m : Type → Type} [Monad m] [RegisterBus R m]
    (a : LocalApic R) (vector : UInt8) {hz : UInt32} {rate : UInt64} {e : TimerError}
    (h : countFor hz rate = .error e) :
    a.programPeriodic (m := m) vector hz rate = pure (.error e) := by
  unfold programPeriodic
  rw [h]

section Answers

variable {R σ : Type} [RegisterBus R (EStateM Stop σ)] {a : LocalApic R}
  {delay : UInt32 → EStateM Stop σ Unit}

/-- **What a measurement comes to** that finds these counts at the ends of its windows. -/
structure Measured (page : TimerPage a delay) (s : σ) (c₁ c₂ c₃ : UInt32)
    (answer : Except TimerError UInt64) (s' : σ) : Prop where
  /-- Each window starts the timer, waits and reads the count, and nothing else is done. -/
  runs : page.Runs (a.measure delay) s answer ([c₁, c₂, c₃].flatMap windowEvents) s'
  /-- Three times ten milliseconds, and meanwhile the timer is masked and counts once. -/
  waits : ∀ f : TimerRegisters,
    f.waits ([c₁, c₂, c₃].flatMap windowEvents) = List.replicate 3 (10, .measuring)
  /-- Afterwards it is masked and stopped. -/
  stopped : ∀ f : TimerRegisters, TimerSetup.of (f.after ([c₁, c₂, c₃].flatMap windowEvents))
    = { TimerSetup.measuring with initial := 0 }
  /-- A timer that did not move in any of the windows is told apart. -/
  stalled : answer = .error .counterStalled ↔ average c₁ c₂ c₃ = 0
  /-- The average of ten milliseconds, for a second. -/
  rate : average c₁ c₂ c₃ ≠ 0 →
    ∃ rate, answer = .ok rate ∧ rate.toNat = 100 * average c₁ c₂ c₃
  /-- No step of the computation overflows its word. -/
  exact : rateOver? [c₁, c₂, c₃] = some (answer.map fun rate => (rate.toNat : Int))

/-- **What the count comes to** for a rate of the tick and a rate of the timer. -/
structure Counted (hz : UInt32) (rate : UInt64) (answer : Except TimerError UInt32) : Prop where
  /-- A count is the quotient, rounded down, where the register holds it. -/
  accepted : ∀ c, answer = .ok c ↔ 0 < rate.toNat ∧ 0 < hz.toNat ∧ c.toNat = rate.toNat / hz.toNat
    ∧ 1 ≤ rate.toNat / hz.toNat ∧ rate.toNat / hz.toNat ≤ 2 ^ 32 - 1
  /-- A rate of zero means that nothing was measured. -/
  notCalibrated : rate.toNat = 0 → answer = .error .notCalibrated
  /-- There is no tick of rate zero. -/
  invalidFrequency : 0 < rate.toNat → hz.toNat = 0 → answer = .error (.invalidFrequency hz)
  /-- The quotient is zero, or too large for the register. -/
  countOutOfRange : 0 < rate.toNat → 0 < hz.toNat →
    ¬(1 ≤ rate.toNat / hz.toNat ∧ rate.toNat / hz.toNat ≤ 2 ^ 32 - 1) →
    ∃ n, answer = .error (.countOutOfRange n) ∧ n.toNat = rate.toNat / hz.toNat
  /-- No step of the computation overflows its word. -/
  exact : countFor? hz rate = some (answer.map fun c => (c.toNat : Int))

/-- **What arming comes to** for a vector and a count. -/
structure Armed (page : TimerPage a delay) (s : σ) (vector : UInt8) (hz : UInt32) (rate : UInt64)
    (answer : Except TimerError UInt32) (s' : σ) : Prop where
  /-- Arming returns, with a count or with the reason why there is none. -/
  run : a.programPeriodic (m := EStateM Stop σ) vector hz rate s = .ok answer s'
  ready : page.ready s'
  /-- The count is the one for these two rates. -/
  counted : Counted hz rate answer
  /-- No larger count would do. -/
  bounds : ∀ c, answer = .ok c →
    c.toNat * hz.toNat ≤ rate.toNat ∧ rate.toNat < (c.toNat + 1) * hz.toNat
  /-- Afterwards the timer delivers the vector, again and again from that count. -/
  setup : ∀ c, answer = .ok c → ∃ es, page.events s' = page.events s ++ es
    ∧ ∀ f : TimerRegisters, TimerSetup.of (f.after es) = ⟨vector, false, .periodic, c, 16⟩
  /-- Nothing happens when there is no count. -/
  untouched : ∀ e, answer = .error e → s' = s

/-- **Every measurement ends**, and comes to this. -/
theorem exists_measured (page : TimerPage a delay) {s : σ} (hs : page.ready s) :
    ∃ c₁ c₂ c₃ answer s', Measured page s c₁ c₂ c₃ answer s' := by
  obtain ⟨counts, s', hlength, hruns⟩ := page.runs_measure hs
  obtain ⟨c₁, c₂, c₃, rfl⟩ := List.length_eq_three.mp hlength
  -- the setup left behind is the one of the last window, whatever the windows before it did
  refine ⟨c₁, c₂, c₃, _, s', hruns, fun f => waits_windows f _, fun f => ?_, ?_, fun h => ?_,
    rateOver?_eq (Nat.le_of_eq hlength)⟩
  · rw [show [c₁, c₂, c₃].flatMap windowEvents
      = (windowEvents c₁ ++ windowEvents c₂) ++ windowEvents c₃ from rfl,
      TimerRegisters.after_append]
    exact of_after_windowEvents _ c₃
  · rw [rateOf_three]
    split
    · exact iff_of_true rfl ‹_›
    · exact iff_of_false nofun ‹_›
  · rw [rateOf_three, if_neg h]
    exact ⟨_, rfl, UInt64.toNat_ofNat_of_lt' (rate_three_lt c₁ c₂ c₃)⟩

/-- The computed count satisfies its specification: it is accepted exactly for a quotient that the
thirty-two-bit register holds, and each refusal names its reason. -/
theorem counted_countFor (hz : UInt32) (rate : UInt64) : Counted hz rate (countFor hz rate) := by
  have hrate : rate = 0 ↔ rate.toNat = 0 := UInt64.toNat_inj.symm
  have hhz : hz = 0 ↔ hz.toNat = 0 := UInt32.toNat_inj.symm
  have hquotient : rate.toNat / hz.toNat < 2 ^ 64 :=
    Nat.lt_of_le_of_lt (Nat.div_le_self _ _) rate.toNat_lt
  -- the guards of `countFor_eq` on numbers, in the order the code checks them
  have hcount := countFor_eq hz rate
  rw [if_congr hrate rfl (if_congr hhz rfl rfl)] at hcount
  refine ⟨fun c => ?_, fun hzero => ?_, fun hpos hzero => ?_, fun hpos hpos' hrange => ?_,
    countFor?_eq hz rate⟩ <;> rw [hcount]
  · by_cases hzero : rate.toNat = 0
    · rw [if_pos hzero]
      exact iff_of_false nofun fun h => Nat.ne_of_gt h.1 hzero
    by_cases hzero' : hz.toNat = 0
    · rw [if_neg hzero, if_pos hzero']
      exact iff_of_false nofun fun h => Nat.ne_of_gt h.2.1 hzero'
    rw [if_neg hzero, if_neg hzero']
    by_cases hrange : 1 ≤ rate.toNat / hz.toNat ∧ rate.toNat / hz.toNat ≤ 2 ^ 32 - 1
    · have hlt : rate.toNat / hz.toNat < UInt32.size := Nat.lt_of_le_of_lt hrange.2 (by decide)
      rw [if_pos hrange, Except.ok.injEq, ← UInt32.toNat_inj, UInt32.toNat_ofNat_of_lt' hlt]
      exact ⟨fun h => ⟨Nat.pos_of_ne_zero hzero, Nat.pos_of_ne_zero hzero', h.symm, hrange⟩,
        fun h => h.2.2.1.symm⟩
    · rw [if_neg hrange]
      exact iff_of_false nofun fun h => hrange h.2.2.2
  · rw [if_pos hzero]
  · rw [if_neg (Nat.ne_of_gt hpos), if_pos hzero]
  · rw [if_neg (Nat.ne_of_gt hpos), if_neg (Nat.ne_of_gt hpos'), if_neg hrange]
    exact ⟨_, rfl, UInt64.toNat_ofNat_of_lt' hquotient⟩

/-- **Arming ends as well.** -/
theorem exists_armed (page : TimerPage a delay) {s : σ} (hs : page.ready s) (vector : UInt8)
    (hz : UInt32) (rate : UInt64) : ∃ answer s', Armed page s vector hz rate answer s' := by
  have hcounted := counted_countFor hz rate
  cases hcount : countFor hz rate with
  | error e =>
    rw [hcount] at hcounted
    exact ⟨.error e, s, congrFun (programPeriodic_of_error a vector hcount) s, hs, hcounted, nofun,
      nofun, fun _ _ => rfl⟩
  | ok count =>
    rw [hcount] at hcounted
    obtain ⟨s', hruns⟩ := page.runs_programPeriodic hs vector hcount
    obtain ⟨-, hpos, hquotient, -⟩ := (hcounted.accepted count).mp rfl
    -- an accepted count is the floor of the quotient, so it misses the rate by less than one period
    refine ⟨.ok count, s', hruns.run, hruns.ready, hcounted, ?_, ?_, nofun⟩
    · rintro c ⟨⟩
      rw [hquotient]
      exact ⟨Nat.div_mul_le_self _ _, by rw [Nat.mul_comm]; exact Nat.lt_mul_div_succ _ hpos⟩
    · rintro c ⟨⟩
      exact ⟨_, hruns.events, fun f => of_after_armingEvents f vector count⟩

/-- **The timer is measured in three windows, and armed for a rate or left alone.** Whatever counts
are found at the ends of the windows, and whatever the registers held before, the timer is masked
and counts once from the largest count in each of them, and is masked and stopped in the end. The
answer is a hundred times the average that was counted, or that the counter did not move when this
average is nothing.

Arming answers the count for a rate of the tick, if the timer was measured, the tick is to have a
rate and the counter can hold the count, which is then not nothing. The timer interrupts
periodically on the vector, from this count, at a sixteenth of the bus clock. Otherwise the answer
is what is wrong, and nothing has happened. No step overflows in either. -/
theorem measured_and_armed (page : TimerPage a delay) {s : σ} (hs : page.ready s) :
    (∃ c₁ c₂ c₃ answer s', Measured page s c₁ c₂ c₃ answer s')
      ∧ ∀ (vector : UInt8) (hz : UInt32) (rate : UInt64),
        ∃ answer s', Armed page s vector hz rate answer s' :=
  ⟨exists_measured page hs, exists_armed page hs⟩

end Answers

end LocalApic

/-! ## A page that is recorded -/

namespace Sim

/-- **A page of registers of which everything is recorded.** Its reads show given counts, one after
the other. -/
structure RecordedPage where
  /-- What the reads show, in order. -/
  counts : Nat → UInt32
  events : List TimerEvent := []

namespace RecordedPage

/-- What was read so far. -/
def readings (p : RecordedPage) : List UInt32 :=
  p.events.filterMap TimerEvent.reading?

/-- Record an event. -/
def record (p : RecordedPage) (e : TimerEvent) : RecordedPage :=
  { p with events := p.events ++ [e] }

/-- The count that a read shows. -/
def shown (p : RecordedPage) : UInt32 :=
  p.counts p.readings.length

instance : RegisterDevice RecordedPage where
  read register p := (p.shown, p.record (.read register p.shown))
  write register value p := p.record (.write register value)

/-- The Local APIC with this page. -/
def apic : LocalApic (Socket RecordedPage RecordedPage) where
  window := Socket.whole
  physBase := 0xfee00000

/-- A delay that is recorded. -/
def delay (ms : UInt32) : BenchM RecordedPage Unit :=
  BenchM.stepDevice fun p => p.record (.wait ms)

/-- Recording an access appends the value that it read, if it read one. -/
theorem readings_record (p : RecordedPage) (e : TimerEvent) :
    (p.record e).readings = p.readings ++ e.reading?.toList := by
  unfold readings record
  rw [List.filterMap_append]
  cases e <;> rfl

/-- **What was read are the first of the counts.** -/
def ReadsInOrder (p : RecordedPage) : Prop :=
  p.readings = (List.range p.readings.length).map p.counts

/-- And so it is when the next count is read, or nothing. -/
theorem ReadsInOrder.record {p : RecordedPage} (h : p.ReadsInOrder) {e : TimerEvent}
    (he : ∀ v, e.reading? = some v → v = p.shown) : (p.record e).ReadsInOrder := by
  unfold ReadsInOrder at h ⊢
  rw [readings_record]
  cases hread : e.reading? with
  | none =>
    rw [Option.toList_none, List.append_nil]
    exact h
  | some v =>
    obtain rfl := he v hread
    rw [Option.toList_some, List.length_append, List.length_singleton, List.range_succ,
      List.map_append, ← show _ = List.map (p.record e).counts _ from h]
    rfl

/-- **The record is an account of the timer.** -/
def timerPage (counts : Nat → UInt32) : TimerPage apic delay where
  ready b := b.device.counts = counts ∧ b.device.ReadsInOrder
  events b := b.device.events
  write _ _ h := ⟨_, rfl, ⟨h.1, h.2.record nofun⟩, rfl⟩
  read _ h := ⟨_, _, rfl, ⟨h.1, h.2.record fun _ hread => (Option.some.inj hread).symm⟩, rfl⟩
  wait _ h := ⟨_, rfl, ⟨h.1, h.2.record nofun⟩, rfl⟩

open LocalApic

variable {counts : Nat → UInt32} {c₁ c₂ c₃ : UInt32} {answer : Except TimerError UInt64}
  {b' : Bench RecordedPage}

/-- **Any three counts can be found**: they are if the page has them to show. -/
theorem counts_found
    (h : Measured (timerPage counts) { device := { counts } } c₁ c₂ c₃ answer b') :
    c₁ = counts 0 ∧ c₂ = counts 1 ∧ c₃ = counts 2 := by
  obtain ⟨hcounts, hreads⟩ := h.runs.ready
  have hevents : b'.device.events = [c₁, c₂, c₃].flatMap windowEvents := h.runs.events
  have hreadings : b'.device.readings = [c₁, c₂, c₃] := by
    unfold readings
    rw [hevents, readings_windows]
  unfold ReadsInOrder at hreads
  rw [hreadings, hcounts] at hreads
  simpa [List.range_succ] using hreads

/-- The counts at the ends of three windows in which the timer comes 62500, 62501 and 62501 ticks
far. -/
def unevenCounts : Nat → UInt32
  | 0 => 0xffffffff - 62500
  | _ => 0xffffffff - 62501

/-- The timer is taken to make 6250000 ticks in a second, of which a hundred interrupts in a second
take 62500 each. Of 5000 ticks in a second, 10000 interrupts cannot be made. -/
theorem measured_and_armed_uneven :
    let b : Bench RecordedPage := { device := { counts := unevenCounts } }
    let page := timerPage unevenCounts
    page.ready b
      ∧ (∃ b', Measured page b (unevenCounts 0) (unevenCounts 1) (unevenCounts 2) (.ok 6250000) b')
      ∧ (∃ b', Armed page b 0x20 100 6250000 (.ok 62500) b')
      ∧ Armed page b 0x20 10000 5000 (.error (.countOutOfRange 0)) b := by
  intro b page
  have hready : page.ready b := ⟨rfl, rfl⟩
  obtain ⟨⟨c₁, c₂, c₃, answer, b', hmeasured⟩, harmed⟩ := measured_and_armed page hready
  refine ⟨hready, ⟨b', ?_⟩, ?_, ?_⟩
  · obtain ⟨rfl, rfl, rfl⟩ := counts_found hmeasured
    obtain ⟨rate, rfl, hrate⟩ := hmeasured.rate (by decide)
    cases UInt64.toNat_inj.mp (hrate.trans (show _ = (6250000 : UInt64).toNat by decide))
    exact hmeasured
  · obtain ⟨answer, b', h⟩ := harmed 0x20 100 6250000
    cases (h.counted.accepted 62500).mpr (by decide)
    exact ⟨b', h⟩
  · obtain ⟨answer, b', h⟩ := harmed 0x20 10000 5000
    obtain ⟨n, rfl, hn⟩ := h.counted.countOutOfRange (by decide) (by decide) (by decide)
    cases UInt64.toNat_inj.mp (hn.trans (show _ = (0 : UInt64).toNat by decide))
    cases h.untouched _ rfl
    exact h

end RecordedPage

end Sim

end Interrupts
