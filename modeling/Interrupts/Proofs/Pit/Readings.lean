import Mathlib.Algebra.BigOperators.Group.Finset.Basic
import Mathlib.Algebra.Order.BigOperators.Group.Finset
import Mathlib.Data.UInt
import Mathlib.Order.Bounds.Basic
import Interrupts.Proofs.Checked
import Interrupts.Proofs.Pit.Delay
import Interrupts.Sim.Ports

/-!
# How often a delay reads the counter

A polled delay adds up what a counter went down between readings, and the counter starts over at
65536 as often as it likes. `FreeRunning` is a channel whose readings are a start less what it went
down since, where from one reading to the next it goes down by less than 65536. On such a channel
the sum that the delay keeps is what the counter really went down, capped at the largest word
(`toNat_elapsed_next`), so the delay reads on exactly until the ticks have gone by: once to begin
with, and then once for each of the decrements that it takes (`pollDelay_readings`).
-/

namespace Interrupts.Pit

open Finset

/-! ## Channels that run free -/

/-- What a counter went down by until it was read for the `n`-th time, the first reading being the
one with number 0. -/
def fallen (drops : Nat → UInt16) (n : Nat) : Nat :=
  ∑ i ∈ range n, (drops i).toNat

/-- **The reading with number `n`** of a counter that begins at `start`. -/
def reading (start : UInt16) (drops : Nat → UInt16) (n : Nat) : UInt16 :=
  start - UInt16.ofNat (fallen drops n)

/-- **Channel 0 runs free.** It takes a latch command and two reads of the data port to read it, low
byte first, and each latch shows it further down. -/
structure FreeRunning {P : Type} (σ : Type) [PortBus P (EStateM Stop σ)] (ports : P)
    (start : UInt16) (drops : Nat → UInt16) where
  /-- The states in which the channel can be read, byte by byte from the first. -/
  ready : σ → Prop
  /-- The number of latch commands so far. -/
  latches : σ → Nat
  /-- A latch command holds the count of that moment until its two bytes were read. -/
  latch : ∀ {s}, ready s → ∃ s₁ s₂ s',
    PortBus.write8 (m := EStateM Stop σ) ports commandPort latchCommand s = .ok () s₁
      ∧ PortBus.read8 (m := EStateM Stop σ) ports channel0 s₁
        = .ok (reading start drops (latches s)).toUInt8 s₂
      ∧ PortBus.read8 (m := EStateM Stop σ) ports channel0 s₂
        = .ok (reading start drops (latches s) >>> 8).toUInt8 s'
      ∧ ready s' ∧ latches s' = latches s + 1

section Readings

variable (start last drop : UInt16) (drops : Nat → UInt16) (n : Nat)

theorem fallen_succ : fallen drops (n + 1) = fallen drops n + (drops n).toNat :=
  sum_range_succ _ n

/-- From some reading on, the counter goes down by the decrements that are still to come. -/
theorem fallen_add (k : Nat) :
    fallen drops (n + k) = fallen drops n + ∑ i ∈ range k, (drops (n + i)).toNat :=
  sum_range_add _ n k

theorem reading_succ : reading start drops (n + 1) = reading start drops n - drops n := by
  unfold reading
  rw [fallen_succ, UInt16.ofNat_add, UInt16.ofNat_toNat, sub_add_eq_sub_sub]

/-- **What a step is taken for is what the counter went down by**, wherever it starts over. -/
theorem toNat_stepTicks_sub : (stepTicks last (last - drop)).toNat = drop.toNat := by
  have hlast := last.toNat_lt
  have hdrop := drop.toNat_lt
  have hcurrent : (last - drop).toNat = (65536 - drop.toNat + last.toNat) % 65536 :=
    UInt16.toNat_sub _ _
  rw [toNat_stepTicks]
  simp only [UInt16.le_iff_toNat_le, hcurrent]
  split <;> omega

end Readings

/-! ## Sums that are checked -/

/-- The ticks between two readings, every sum and difference checked. -/
def stepTicks? (last current : UInt16) : Option Int :=
  if current ≤ last then held 16 (last.toNat - current.toNat)
  else do
    let sum ← held 32 (last.toNat + 65536)
    held 32 (sum - current.toNat)

/-- The ticks in a number of milliseconds, if 32 bits hold them, the product checked. -/
def ticksFor? (ms : UInt32) : Option Int := do
  let product ← held 64 (ms.toNat * 1193182)
  held 32 (product / 1000)

/-- **No step overflows.** -/
theorem stepTicks?_eq (last current : UInt16) :
    stepTicks? last current = some ((stepTicks last current).toNat : Int) := by
  have hlast := last.toNat_lt
  have hcurrent := current.toNat_lt
  unfold stepTicks?
  rw [toNat_stepTicks]
  by_cases h : current ≤ last
  · have hle := UInt16.le_iff_toNat_le.mp h
    rw [if_pos h, if_pos h, held_of_lt (by omega) (by omega)]
    exact congrArg some (Int.ofNat_sub hle).symm
  · rw [if_neg h, if_neg h, held_of_lt (by omega) (by omega)]
    refine (held_of_lt (by omega) (by omega)).trans (congrArg some ?_)
    omega

/-- The conversion to ticks meets no overflow while the number of ticks fits in a word. -/
theorem ticksFor?_eq {ms : UInt32} (hfits : ms.toNat * 1193182 / 1000 < UInt32.size) :
    ticksFor? ms = some ((ticksFor ms).toNat : Int) := by
  have hms := ms.toNat_lt
  have hproduct : held 64 (ms.toNat * 1193182) = some ((ms.toNat : Int) * 1193182) :=
    held_of_lt (by omega) (by omega)
  have hticks : (ms.toNat : Int) * 1193182 / 1000 = (ticksFor ms).toNat := by
    rw [toNat_ticksFor hfits]
    omega
  unfold ticksFor?
  rw [hproduct, Option.bind_eq_bind, Option.bind_some, hticks]
  exact held_natCast (ticksFor ms).toNat_lt

/-! ## The loop -/

namespace FreeRunning

variable {P σ : Type} [PortBus P (EStateM Stop σ)] {ports : P} {start : UInt16}
  {drops : Nat → UInt16} (c : FreeRunning σ ports start drops) {s : σ}

/-- A reading shows the start less what has fallen so far, and is one latch more. -/
theorem readCount (hs : c.ready s) : ∃ s', Pit.readCount (m := EStateM Stop σ) ports s
      = .ok (reading start drops (c.latches s)) s'
    ∧ c.ready s' ∧ c.latches s' = c.latches s + 1 := by
  obtain ⟨s₁, s₂, s', hlatch, hlow, hhigh, hready, hlatches⟩ := c.latch hs
  refine ⟨s', ?_, hready, hlatches⟩
  unfold Pit.readCount
  rw [bind_of_ok hlatch, bind_of_ok hlow, bind_of_ok hhigh]
  exact congrArg (EStateM.Result.ok · s') (Countdown.join_bytes _)

variable {n j k patience : Nat} {needed elapsed : UInt32}

omit [PortBus P (EStateM Stop σ)] in
/-- **The sum that the delay keeps** is what the counter went down since the first reading, as long
as a word holds it, and the largest word from then on. -/
theorem toNat_elapsed_next
    (h : elapsed.toNat = min (fallen drops (n + j) - fallen drops n) 0xffffffff) :
    (addSaturating elapsed (stepTicks (reading start drops (n + j))
        (reading start drops (n + (j + 1))))).toNat
      = min (fallen drops (n + (j + 1)) - fallen drops n) 0xffffffff := by
  have hbefore := fallen_add drops n j
  rw [toNat_addSaturating, ← Nat.add_assoc, reading_succ, toNat_stepTicks_sub, fallen_succ, h]
  omega

/-- One more reading. -/
theorem countTo_step (hs : c.ready s) (hlatches : c.latches s = n + (j + 1))
    (hless : elapsed < needed) : ∃ s', c.ready s' ∧ c.latches s' = n + (j + 1 + 1)
      ∧ countTo (m := EStateM Stop σ) ports needed (patience + 1) (reading start drops (n + j))
          elapsed s
        = countTo (m := EStateM Stop σ) ports needed patience (reading start drops (n + (j + 1)))
          (addSaturating elapsed (stepTicks (reading start drops (n + j))
            (reading start drops (n + (j + 1))))) s' := by
  obtain ⟨s', hread, hready, hlatches'⟩ := c.readCount hs
  rw [hlatches] at hread hlatches'
  exact ⟨s', hready, hlatches', by rw [countTo_succ hless, bind_of_ok hread]⟩

/-- The sum tells whether the ticks have gone by. -/
theorem elapsed_lt_iff
    (h : elapsed.toNat = min (fallen drops (n + j) - fallen drops n) 0xffffffff) :
    elapsed < needed ↔ ∑ i ∈ range j, (drops (n + i)).toNat < needed.toNat := by
  have hneeded := needed.toNat_lt
  rw [UInt32.lt_iff_toNat_lt, h, fallen_add]
  omega

/-- **The loop stops at the first sum that is large enough**, if its patience lasts. -/
theorem countTo_returns {left : Nat}
    (hleast : IsLeast {k | needed.toNat ≤ ∑ i ∈ range k, (drops (n + i)).toNat} (j + left))
    (hpatience : left ≤ patience) (hs : c.ready s) (hlatches : c.latches s = n + (j + 1))
    (hsum : elapsed.toNat = min (fallen drops (n + j) - fallen drops n) 0xffffffff) :
    ∃ s', countTo (m := EStateM Stop σ) ports needed patience (reading start drops (n + j)) elapsed
        s = .ok () s'
      ∧ c.ready s' ∧ c.latches s' = n + (j + left + 1) := by
  induction left generalizing j patience elapsed s with
  | zero =>
    have hstop : ¬elapsed < needed := by
      rw [elapsed_lt_iff hsum]
      exact Nat.not_lt_of_le hleast.1
    rw [countTo_done hstop]
    exact ⟨s, rfl, hs, hlatches⟩
  | succ left ih =>
    -- A sum before the first one that is large enough is too small.
    have hless : elapsed < needed := by
      rw [elapsed_lt_iff hsum]
      refine Nat.lt_of_not_le fun hle => ?_
      exact absurd (hleast.2 hle) (by omega)
    obtain ⟨patience, rfl⟩ :=
      Nat.exists_eq_add_of_le' (Nat.le_trans (Nat.le_add_left 1 left) hpatience)
    obtain ⟨s₁, hready, hlatches₁, hstep⟩ := c.countTo_step hs hlatches hless
    rw [hstep, show j + (left + 1) = j + 1 + left by omega] at *
    exact ih hleast (Nat.le_of_succ_le_succ hpatience) hready hlatches₁ (toNat_elapsed_next hsum)

/-- **The loop reads on while the sum is too small**, until its patience is used up. -/
theorem countTo_stalls
    (hshort : ∑ i ∈ range (j + patience), (drops (n + i)).toNat < needed.toNat) (hs : c.ready s)
    (hlatches : c.latches s = n + (j + 1))
    (hsum : elapsed.toNat = min (fallen drops (n + j) - fallen drops n) 0xffffffff) :
    ∃ s', countTo (m := EStateM Stop σ) ports needed patience (reading start drops (n + j)) elapsed
        s = .error .stalled s'
      ∧ c.latches s' = n + (j + patience + 1) := by
  induction patience generalizing j elapsed s with
  | zero =>
    unfold countTo
    rw [if_pos ((elapsed_lt_iff hsum).mpr hshort)]
    exact ⟨s, rfl, hlatches⟩
  | succ patience ih =>
    -- the drops are not negative, so a sum that is short at the end was short on the way
    have hless : elapsed < needed := by
      rw [elapsed_lt_iff hsum]
      refine Nat.lt_of_le_of_lt (sum_le_sum_of_subset ?_) hshort
      exact range_mono (Nat.le_add_right j (patience + 1))
    obtain ⟨s₁, hready, hlatches₁, hstep⟩ := c.countTo_step hs hlatches hless
    rw [hstep, show j + (patience + 1) = j + 1 + patience by omega] at *
    exact ih hshort hready hlatches₁ (toNat_elapsed_next hsum)

end FreeRunning

/-! ## The delay -/

/-- **A delay reads the counter once, and then until the ticks have gone by.** On a channel that
runs free it makes one reading to begin with and one for each of the decrements up to the first sum
of them that comes to the ticks of its milliseconds, however often the counter starts over
meanwhile. A delay whose patience does not last that long makes as many readings as it lasts for,
and stalls. An empty delay does nothing, and no sum, difference or product overflows on the way. -/
theorem pollDelay_readings {P σ : Type} [PortBus P (EStateM Stop σ)] {ports : P} {start : UInt16}
    {drops : Nat → UInt16} (c : FreeRunning σ ports start drops) {ms : UInt32}
    (hfits : ms.toNat * 1193182 / 1000 < UInt32.size) {s : σ} (hs : c.ready s) :
    let needed := ms.toNat * 1193182 / 1000
    let gone := fun k => ∑ i ∈ range k, (drops (c.latches s + i)).toNat
    (ms ≠ 0 → ∀ patience,
        (∀ k ≤ patience, IsLeast {k | needed ≤ gone k} k →
          ∃ s', pollDelay (m := EStateM Stop σ) ports patience ms s = .ok () s' ∧ c.ready s'
            ∧ c.latches s' = c.latches s + (1 + k))
          ∧ (gone patience < needed →
            ∃ s', pollDelay (m := EStateM Stop σ) ports patience ms s = .error .stalled s'
              ∧ c.latches s' = c.latches s + (1 + patience)))
      ∧ (∀ patience, pollDelay (m := EStateM Stop σ) ports patience 0 = pure ())
      ∧ ticksFor? ms = some (needed : Int)
      ∧ ∀ last current, stepTicks? last current = some ((stepTicks last current).toNat : Int) := by
  intro needed gone
  have hneeded : (ticksFor ms).toNat = needed := toNat_ticksFor hfits
  refine ⟨fun hms patience => ?_, fun patience => rfl, ?_, stepTicks?_eq⟩
  · obtain ⟨s₁, hread, hready, hlatches⟩ := c.readCount hs
    -- the first reading is only a starting point, which the sum over no drops stands for
    have hnone : (0 : UInt32).toNat
        = min (fallen drops (c.latches s + 0) - fallen drops (c.latches s)) 0xffffffff := by
      rw [Nat.add_zero, Nat.sub_self]
      rfl
    have hrun : pollDelay (m := EStateM Stop σ) ports patience ms s
        = countTo (m := EStateM Stop σ) ports (ticksFor ms) patience
          (reading start drops (c.latches s + 0)) 0 s₁ := by
      unfold pollDelay
      rw [if_neg hms, bind_of_ok hread]
      rfl
    rw [hrun]
    refine ⟨fun k hk hleast => ?_, fun hshort => ?_⟩
    · rw [← hneeded, ← Nat.zero_add k] at hleast
      obtain ⟨s', hreturns, hready', hlatches'⟩ := c.countTo_returns hleast hk hready hlatches hnone
      exact ⟨s', hreturns, hready', by omega⟩
    · rw [← hneeded, ← Nat.zero_add patience] at hshort
      obtain ⟨s', hstalls, hlatches'⟩ := c.countTo_stalls hshort hready hlatches hnone
      exact ⟨s', hstalls, by omega⟩
  · rw [ticksFor?_eq hfits, hneeded]

end Interrupts.Pit

/-! ## A machine of ports -/

namespace Interrupts.Sim.PortMachine

open Pit

/-- The decrement that a latch takes off the counter, by the number of the latches before. -/
def stepAt (steps : Array UInt16) (n : Nat) : UInt16 :=
  if steps.isEmpty then 0 else (steps[n % steps.size]?).getD 0

theorem count_latch (m : PortMachine) : m.latch.count = m.count - stepAt m.steps m.taken :=
  rfl

/-- What is taken off before the first reading belongs to the start. -/
theorem reading_stepAt (count : UInt16) (steps : Array UInt16) (n : Nat) :
    reading (count - stepAt steps 0) (fun i => stepAt steps (i + 1)) n
      = count - UInt16.ofNat (fallen (stepAt steps) (n + 1)) := by
  have hfirst : fallen (stepAt steps) (n + 1)
      = fallen (fun i => stepAt steps (i + 1)) n + (stepAt steps 0).toNat :=
    Finset.sum_range_succ' _ n
  unfold reading
  rw [hfirst, UInt16.ofNat_add, UInt16.ofNat_toNat, add_comm, sub_add_eq_sub_sub]

/-- **A machine of ports runs free.** A latch takes its decrement off the counter before it shows
it. -/
def freeRunning (count : UInt16) (steps : Array UInt16) :
    FreeRunning (Bench PortMachine) (Socket.whole : Socket PortMachine PortMachine)
      (count - stepAt steps 0) (fun n => stepAt steps (n + 1)) where
  ready b := b.device.steps = steps ∧ b.device.taken = b.device.latches
    ∧ b.device.count = count - UInt16.ofNat (fallen (stepAt steps) b.device.latches)
  latches b := b.device.latches
  latch := by
    rintro b ⟨hsteps, htaken, hcount⟩
    have hlatched : b.device.latch.count
        = reading (count - stepAt steps 0) (fun n => stepAt steps (n + 1)) b.device.latches := by
      rw [count_latch, hsteps, htaken, hcount, reading_stepAt, fallen_succ, UInt16.ofNat_add,
        UInt16.ofNat_toNat, sub_add_eq_sub_sub]
    rw [← hlatched]
    refine ⟨_, _, _, rfl, rfl, rfl, ⟨hsteps, congrArg (· + 1) htaken, ?_⟩, rfl⟩
    exact hlatched.trans (reading_stepAt count steps _)

/-- A delay of a hundred milliseconds on a counter that goes down by 65535, by nothing and by 1000
in turn. It starts over three times, and two readings are equal; with the fourth decrement 119318
ticks have gone by, so there are five readings. -/
theorem pollDelay_readings_uneven :
    let b : Bench PortMachine := { device := { count := 1500, steps := #[1000, 65535, 0] } }
    let c := freeRunning 1500 #[1000, 65535, 0]
    ((100 : UInt32).toNat * 1193182 / 1000 < UInt32.size ∧ c.ready b
        ∧ IsLeast {k | 119318 ≤ ∑ i ∈ Finset.range k, (stepAt #[1000, 65535, 0] (i + 1)).toNat} 4)
      ∧ ∃ b', pollDelay (m := BenchM PortMachine) (Socket.whole : Socket PortMachine PortMachine)
          100 100 b = .ok () b'
        ∧ b'.device.latches = 5 := by
  intro b c
  have hready : c.ready b := ⟨rfl, rfl, (UInt16.sub_zero 1500).symm⟩
  have hneeded : (100 : UInt32).toNat * 1193182 / 1000 = 119318 := by decide
  have hfits : (100 : UInt32).toNat * 1193182 / 1000 < UInt32.size := by
    rw [hneeded]
    decide
  have hleast : IsLeast
      {k | 119318 ≤ ∑ i ∈ Finset.range k, (stepAt #[1000, 65535, 0] (i + 1)).toNat} 4 := by
    have hless : ∀ k < 4,
        ∑ i ∈ Finset.range k, (stepAt #[1000, 65535, 0] (i + 1)).toNat < 119318 := by decide
    refine ⟨show 119318 ≤ ∑ i ∈ Finset.range 4, _ by decide, fun k hk => ?_⟩
    exact Nat.le_of_not_lt fun hlt => Nat.not_le_of_lt (hless k hlt) hk
  have hreads := ((pollDelay_readings c hfits hready).1 (by decide) 100).1 4 (by decide)
  rw [hneeded, show c.latches b = 0 from rfl] at hreads
  simp only [Nat.zero_add] at hreads
  obtain ⟨b', hrun, -, hlatches⟩ := hreads hleast
  exact ⟨⟨hfits, hready, hleast⟩, b', hrun, hlatches⟩

end Interrupts.Sim.PortMachine
