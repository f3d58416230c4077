import Interrupts.Pit
import Interrupts.Proofs.Discipline

/-!
# How long a polled delay lasts

A delay adds up what the counter went down between readings. When a reading is larger than the one
before, the counter has started over in between, and the delay takes it to have started over at
65536. `Counts` is the law of a counter that starts over at some reload, with the ticks that have
really gone by as a function of the state, and a reload makes delays `LongEnough` if none of them
returns early on any such counter.

With a smaller reload each start is taken for more ticks than it is. So delays are long enough for
the largest reload, and for no smaller one on which the counter moves at all (`longEnough_iff`): on
a `Countdown` that goes down by one from reading to reading a single start is too much.
-/

namespace Interrupts.Pit

/-! ## The law of a counter -/

/-- **A reading of a counter** that starts over at `reload` and of which `gone` ticks have gone
by. -/
def Reads (reload : Nat) (count : UInt16) (gone : Nat) : Prop :=
  count.toNat < reload ∧ reload ∣ count.toNat + gone

/-- **The channel counts down from `reload`** and starts over: from one reading to the next less
than `reload` ticks go by, and the readings show them. -/
def Counts {P σ : Type} [PortBus P (EStateM Stop σ)] (ports : P) (reload : Nat) (gone : σ → Nat)
    (here : σ → Prop) : Prop :=
  ∀ s, here s → ∃ count s', readCount (m := EStateM Stop σ) ports s = .ok count s' ∧ here s'
    ∧ Reads reload count (gone s') ∧ gone s ≤ gone s' ∧ gone s' < gone s + reload

/-- **Delays are long enough** on every channel that counts down from `reload`: when one of them
returns, the ticks of its milliseconds have really gone by. -/
def LongEnough (reload : Nat) (ms : UInt32) : Prop :=
  ∀ (P σ : Type) [PortBus P (EStateM Stop σ)] (ports : P) (gone : σ → Nat) (here : σ → Prop),
    Counts ports reload gone here → ∀ patience s s', here s →
    pollDelay (m := EStateM Stop σ) ports patience ms s = .ok () s' →
    gone s + ms.toNat * 1193182 / 1000 ≤ gone s'

/-! ## From reading to reading -/

/-- The step between two readings, where a count that rose is taken to have gone once around the
full range. -/
theorem toNat_stepTicks (last current : UInt16) :
    (stepTicks last current).toNat
      = if current ≤ last then last.toNat - current.toNat
        else last.toNat + 65536 - current.toNat := by
  have hlast := last.toNat_lt
  have hcurrent := current.toNat_lt
  unfold stepTicks
  by_cases h : current ≤ last
  · rw [if_pos h, if_pos h, UInt16.toNat_toUInt32, UInt16.toNat_sub_of_le _ _ h]
  · have hsum : (last.toUInt32 + maxReload).toNat = last.toNat + 65536 := by
      rw [UInt32.toNat_add, UInt16.toNat_toUInt32]
      exact Nat.mod_eq_of_lt (show last.toNat + 65536 < 2 ^ 32 by omega)
    rw [if_neg h, if_neg h, UInt32.toNat_sub_of_le, hsum, UInt16.toNat_toUInt32]
    rw [UInt32.le_iff_toNat_le, hsum, UInt16.toNat_toUInt32]
    omega

/-- The saturating sum is the sum, cut at the largest word. -/
theorem toNat_addSaturating (a b : UInt32) :
    (addSaturating a b).toNat = min (a.toNat + b.toNat) 0xffffffff := by
  unfold addSaturating
  by_cases h : a.toNat + b.toNat < UInt32.size
  · rw [if_pos h, UInt32.toNat_add, Nat.mod_eq_of_lt h]
    unfold UInt32.size at h
    omega
  · rw [if_neg h]
    unfold UInt32.size at h
    change 0xffffffff = _
    omega

section Steps

variable {reload gone gone' : Nat} {last current : UInt16}

/-- What has gone by between two readings: the counter started over if it reads more. -/
theorem Reads.sub_eq (h : Reads reload last gone) (h' : Reads reload current gone')
    (hle : gone ≤ gone') (hlt : gone' < gone + reload) :
    gone' - gone = if current ≤ last then last.toNat - current.toNat
      else last.toNat + reload - current.toNat := by
  obtain ⟨hlast, a, ha⟩ := h
  obtain ⟨hcurrent, b, hb⟩ := h'
  -- The counter has started over `b - a` times, which is once at most.
  have hge : a ≤ b := by
    refine Nat.le_of_not_lt fun hlt => ?_
    have hmul := Nat.mul_le_mul_left reload (Nat.succ_le_of_lt hlt)
    rw [Nat.mul_succ] at hmul
    omega
  have hle : b ≤ a + 1 := by
    refine Nat.le_of_not_lt fun hlt => ?_
    have hmul := Nat.mul_le_mul_left reload (Nat.succ_le_of_lt hlt)
    rw [Nat.mul_succ, Nat.mul_succ] at hmul
    omega
  rcases Nat.eq_or_lt_of_le hge with rfl | hlt
  · rw [if_pos (UInt16.le_iff_toNat_le.mpr (by omega))]
    omega
  · obtain rfl : b = a + 1 := by omega
    rw [Nat.mul_succ] at hb
    rw [if_neg (by rw [UInt16.le_iff_toNat_le]; omega)]
    omega

/-- **A step is too long** by what the reload falls short of the largest one, whenever the counter
starts over. -/
theorem Reads.toNat_stepTicks (h : Reads reload last gone) (h' : Reads reload current gone')
    (hle : gone ≤ gone') (hlt : gone' < gone + reload) (hreload : reload ≤ 65536) :
    (stepTicks last current).toNat
      = gone' - gone + if current ≤ last then 0 else 65536 - reload := by
  have hcount := h'.1
  rw [Pit.toNat_stepTicks, h.sub_eq h' hle hlt]
  split
  · rfl
  · omega

end Steps

/-! ## Delays on the largest reload -/

theorem toNat_ticksFor {ms : UInt32} (h : ms.toNat * 1193182 / 1000 < UInt32.size) :
    (ticksFor ms).toNat = ms.toNat * 1193182 / 1000 :=
  UInt32.toNat_ofNat_of_lt' h

section Loop

variable {P σ : Type} [PortBus P (EStateM Stop σ)] {ports : P} {needed elapsed : UInt32}
  {last : UInt16} {patience : Nat}

/-- A count that has reached what is needed reads no further. -/
theorem countTo_done (h : ¬elapsed < needed) :
    countTo (m := EStateM Stop σ) ports needed patience last elapsed = pure () := by
  cases patience with
  | zero => exact if_neg h
  | succ patience => exact if_neg h

/-- A count short of what is needed takes one reading and adds the step. -/
theorem countTo_succ (h : elapsed < needed) :
    countTo (m := EStateM Stop σ) ports needed (patience + 1) last elapsed = (do
      let current ← readCount ports
      countTo ports needed patience current
        (addSaturating elapsed (stepTicks last current)) : EStateM Stop σ Unit) :=
  if_pos h

variable {reload before : Nat} {gone : σ → Nat} {here : σ → Prop} {s s' : σ}

/-- Where steps are exact, the loop never counts more than has gone by. -/
theorem Counts.countTo_gone (h : Counts ports reload gone here)
    (hreload : reload = 65536 ∨ reload = 1) (hs : here s)
    (hlast : Reads reload last (gone s)) (helapsed : before + elapsed.toNat ≤ gone s)
    (hrun : countTo (m := EStateM Stop σ) ports needed patience last elapsed s = .ok () s') :
    before + needed.toNat ≤ gone s' := by
  have hdone {last : UInt16} {elapsed : UInt32} {patience : Nat} {s : σ}
      (helapsed : before + elapsed.toNat ≤ gone s) (hstop : ¬elapsed < needed)
      (hrun : countTo (m := EStateM Stop σ) ports needed patience last elapsed s = .ok () s') :
      before + needed.toNat ≤ gone s' := by
    rw [countTo_done hstop] at hrun
    obtain ⟨-, rfl⟩ := pure_eq_ok.mp hrun
    rw [UInt32.lt_iff_toNat_lt] at hstop
    omega
  induction patience generalizing last elapsed s with
  | zero =>
    by_cases hstop : elapsed < needed
    · unfold countTo at hrun
      rw [if_pos hstop] at hrun
      exact nomatch hrun
    · exact hdone helapsed hstop hrun
  | succ patience ih =>
    by_cases hstop : elapsed < needed
    · rw [countTo_succ hstop] at hrun
      obtain ⟨current, s₁, hread, hrun⟩ := bind_eq_ok.mp hrun
      obtain ⟨count, s₂, hread', hs₂, hcount, hle, hlt⟩ := h s hs
      cases hread.symm.trans hread'
      refine ih hs₂ hcount ?_ hrun
      have hstep := hlast.toNat_stepTicks hcount hle hlt (by omega)
      -- the error of one step is what a start over is taken for beyond the reload
      have hexact : (if current ≤ last then 0 else 65536 - reload) = 0 := by
        split
        · rfl
        · have hlast := hlast.1
          have hcount := hcount.1
          rw [UInt16.le_iff_toNat_le] at *
          omega
      rw [toNat_addSaturating]
      omega
    · exact hdone helapsed hstop hrun

end Loop

/-- Where a start over means the full range, or the counter shows one value only, no delay is short.
-/
theorem longEnough_of_exact {reload : Nat} (hreload : reload = 65536 ∨ reload = 1) {ms : UInt32}
    (hfits : ms.toNat * 1193182 / 1000 < UInt32.size) : LongEnough reload ms := by
  intro P σ _ ports gone here hcounts patience s s' hs hrun
  unfold pollDelay at hrun
  split at hrun
  · obtain ⟨-, rfl⟩ := pure_eq_ok.mp hrun
    rename_i hzero
    rw [hzero]
    exact Nat.le_refl _
  · obtain ⟨start, s₁, hread, hrun⟩ := bind_eq_ok.mp hrun
    obtain ⟨count, s₂, hread', hs₂, hcount, hle, -⟩ := hcounts s hs
    cases hread.symm.trans hread'
    rw [← toNat_ticksFor hfits]
    refine hcounts.countTo_gone hreload hs₂ hcount ?_ hrun
    exact hle

/-! ## A counter that goes down by one -/

/-- **A counter for which one tick goes by from reading to reading**, the first one apart. -/
structure Countdown where
  /-- Where it starts over. -/
  reload : Nat

/-- Where such a counter is: the readings so far, and the bytes of the last one that are still to be
read. -/
structure Dial where
  latches : Nat := 0
  unread : List UInt8 := []

namespace Dial

/-- The ticks that have gone by. -/
def gone (d : Dial) : Nat :=
  d.latches - 1

/-- The next byte. -/
def read (d : Dial) : UInt8 × Dial :=
  match d.unread with
  | [] => (0, d)
  | b :: bs => (b, { d with unread := bs })

/-- Latch a count. -/
def latch (d : Dial) (count : UInt16) : Dial :=
  { latches := d.latches + 1, unread := [count.toUInt8, (count >>> 8).toUInt8] }

end Dial

namespace Countdown

/-- The reading when some ticks have gone by. -/
def count (c : Countdown) (gone : Nat) : UInt16 :=
  UInt16.ofNat ((c.reload - 1) * gone % c.reload)

instance : PortBus Countdown (EStateM Stop Dial) where
  read8 _ _ d := .ok d.read.1 d.read.2
  write8 c port value d :=
    if port = commandPort ∧ value = latchCommand then .ok () (d.latch (c.count d.latches))
    else .ok () d

/-- Two bytes make up a count again. -/
theorem join_bytes (count : UInt16) :
    ((count >>> 8).toUInt8.toUInt16 <<< 8) ||| count.toUInt8.toUInt16 = count := by
  apply UInt16.eq_of_toBitVec_eq
  ext i hi
  simp only [UInt16.toBitVec_or, UInt16.toBitVec_shiftLeft, UInt16.toBitVec_shiftRight,
    UInt8.toBitVec_toUInt16, UInt16.toBitVec_toUInt8, UInt16.toBitVec_ofNat,
    BitVec.ofNat_eq_ofNat, BitVec.reduceMod, BitVec.ushiftRight_eq', BitVec.toNat_ofNat,
    Nat.reducePow, Nat.reduceMod, BitVec.shiftLeft_eq', BitVec.getElem_or, BitVec.getElem_setWidth,
    BitVec.getLsbD_setWidth, BitVec.getElem_shiftLeft, BitVec.getLsbD_ushiftRight]
  grind

/-- A reading latches the count of this moment, and moves the dial on by one. -/
theorem readCount_eq (c : Countdown) (n : Nat) (unread : List UInt8) :
    readCount (m := EStateM Stop Dial) c { latches := n, unread }
      = .ok (c.count n) { latches := n + 1, unread := [] } := by
  have hlatch : PortBus.write8 (m := EStateM Stop Dial) c commandPort latchCommand
      { latches := n, unread } = .ok () (Dial.latch { latches := n, unread } (c.count n)) :=
    if_pos ⟨rfl, rfl⟩
  unfold readCount
  rw [bind_of_ok hlatch]
  exact congrArg (EStateM.Result.ok · _) (join_bytes _)

variable {c : Countdown}

theorem toNat_count (hpos : 1 ≤ c.reload) (hle : c.reload ≤ 65536) (gone : Nat) :
    (c.count gone).toNat = (c.reload - 1) * gone % c.reload :=
  UInt16.toNat_ofNat_of_lt' (Nat.lt_of_lt_of_le (Nat.mod_lt _ hpos) hle)

/-- What the counter shows after so many ticks is a reading of it. -/
theorem reads_count (hpos : 1 ≤ c.reload) (hle : c.reload ≤ 65536) (gone : Nat) :
    Reads c.reload (c.count gone) gone := by
  refine ⟨?_, Nat.dvd_of_mod_eq_zero ?_⟩
  · rw [toNat_count hpos hle]
    exact Nat.mod_lt _ hpos
  · rw [toNat_count hpos hle, Nat.mod_add_mod, ← Nat.succ_mul, Nat.succ_eq_add_one,
      Nat.sub_add_cancel hpos, Nat.mul_mod_right]

/-- The descending counter is one of the counters that the delay is about. -/
theorem counts (hlt : 1 < c.reload) (hle : c.reload ≤ 65536) :
    Counts c c.reload Dial.gone fun _ => True := by
  intro d _
  refine ⟨_, _, c.readCount_eq d.latches d.unread, trivial, reads_count (Nat.le_of_lt hlt) hle _, ?_, ?_⟩
  · unfold Dial.gone
    dsimp only
    omega
  · unfold Dial.gone
    dsimp only
    omega

/-- What a step on this counter is taken for. -/
theorem toNat_stepTicks_count (hlt : 1 < c.reload) (hle : c.reload ≤ 65536) (gone : Nat) :
    (stepTicks (c.count gone) (c.count (gone + 1))).toNat
      = 1 + if c.count (gone + 1) ≤ c.count gone then 0 else 65536 - c.reload := by
  have hpos := Nat.le_of_lt hlt
  rw [(reads_count hpos hle gone).toNat_stepTicks (reads_count hpos hle (gone + 1))
    (Nat.le_succ gone) (Nat.add_lt_add_left hlt gone) hle, Nat.add_sub_cancel_left]

variable {needed elapsed : UInt32} {gone patience : Nat}

/-- **A loop that is ahead of the counter stays ahead**, and returns early. -/
theorem countTo_early (hlt : 1 < c.reload) (hle : c.reload ≤ 65536)
    (hahead : gone < elapsed.toNat) (hgone : gone < needed.toNat)
    (hpatience : needed.toNat ≤ patience + elapsed.toNat) :
    ∃ d, countTo (m := EStateM Stop Dial) c needed patience (c.count gone) elapsed
        { latches := gone + 1, unread := [] } = .ok () d ∧ d.gone < needed.toNat := by
  induction patience generalizing gone elapsed with
  | zero =>
    have hstop : ¬elapsed < needed := by
      rw [UInt32.lt_iff_toNat_lt]
      omega
    rw [countTo_done hstop]
    exact ⟨_, rfl, hgone⟩
  | succ patience ih =>
    by_cases hstop : elapsed < needed
    · have hless := UInt32.lt_iff_toNat_lt.mp hstop
      have hbound := needed.toNat_lt
      -- each reading moves the sum on by at least one, and the clock by exactly one
      have hnext : elapsed.toNat + 1
          ≤ (addSaturating elapsed (stepTicks (c.count gone) (c.count (gone + 1)))).toNat := by
        rw [toNat_addSaturating, toNat_stepTicks_count hlt hle]
        omega
      rw [countTo_succ hstop, bind_of_ok (c.readCount_eq _ _)]
      exact ih (by omega) (by omega) (by omega)
    · rw [countTo_done hstop]
      exact ⟨_, rfl, hgone⟩

/-- **A delay on this counter returns early** unless its reload is the largest one: the first tick
makes it start over. -/
theorem pollDelay_early (hlt : 1 < c.reload) (hlt' : c.reload < 65536) {ms : UInt32} (hms : ms ≠ 0)
    (hpatience : (ticksFor ms).toNat ≤ patience) (hneeded : 1 < (ticksFor ms).toNat) :
    ∃ d, pollDelay (m := EStateM Stop Dial) c (patience + 1) ms {} = .ok () d
      ∧ d.gone < (ticksFor ms).toNat := by
  have hle := Nat.le_of_lt hlt'
  -- the count starts at zero and starts over at once, so the first step is taken for a tick and all
  -- that the reload lacks of the full range
  have hstarts : ¬c.count 1 ≤ c.count 0 := by
    have hpos := Nat.le_of_lt hlt
    rw [UInt16.le_iff_toNat_le, toNat_count hpos hle, toNat_count hpos hle, Nat.mul_one,
      Nat.mul_zero, Nat.zero_mod, Nat.mod_eq_of_lt (Nat.sub_lt hpos Nat.one_pos)]
    omega
  have hstep : (addSaturating 0 (stepTicks (c.count 0) (c.count 1))).toNat
      = 1 + (65536 - c.reload) := by
    rw [toNat_addSaturating, toNat_stepTicks_count hlt hle, if_neg hstarts, UInt32.toNat_zero]
    omega
  have hstart : (0 : UInt32) < ticksFor ms := by
    rw [UInt32.lt_iff_toNat_lt, UInt32.toNat_zero]
    omega
  unfold pollDelay
  rw [if_neg hms, bind_of_ok (c.readCount_eq _ _), countTo_succ hstart,
    bind_of_ok (c.readCount_eq _ _)]
  exact countTo_early hlt hle (by rw [hstep]; omega) hneeded (by omega)

end Countdown

/-! ## Which reloads make delays long enough -/

/-- **Delays are long enough just for the largest reload**, and for a counter that never moves. Only
the empty delay is on all of them. -/
theorem longEnough_iff {reload : Nat} (hpos : 1 ≤ reload) (hle : reload ≤ 65536) {ms : UInt32}
    (hfits : ms.toNat * 1193182 / 1000 < UInt32.size) :
    LongEnough reload ms ↔ reload = 65536 ∨ reload = 1 ∨ ms = 0 := by
  constructor
  · intro h
    by_cases hexact : reload = 65536 ∨ reload = 1 ∨ ms = 0
    · exact hexact
    · obtain ⟨hlarge, hone, hms⟩ := not_or.mp hexact |>.imp_right not_or.mp
      have hne : ms.toNat ≠ 0 := fun hzero => hms (UInt32.toNat_inj.mp hzero)
      have hneeded := toNat_ticksFor hfits
      obtain ⟨d, hrun, hgone⟩ := Countdown.pollDelay_early (c := ⟨reload⟩)
        (show 1 < reload by omega) (show reload < 65536 by omega) hms (Nat.le_refl _) (by omega)
      -- the descending counter with this reload is a counter on which the delay ends early
      have hlong := h Countdown Dial ⟨reload⟩ Dial.gone (fun _ => True)
        (Countdown.counts (c := ⟨reload⟩) (show 1 < reload by omega) hle) _ {} d trivial hrun
      rw [← hneeded] at hlong
      exact absurd (Nat.le_trans (Nat.le_add_left _ _) hlong) (Nat.not_le_of_lt hgone)
  · rintro (hlarge | hone | rfl)
    · exact longEnough_of_exact (.inl hlarge) hfits
    · exact longEnough_of_exact (.inr hone) hfits
    · intro P σ _ ports gone here hcounts patience s s' hs hrun
      obtain ⟨-, rfl⟩ := pure_eq_ok.mp hrun
      exact Nat.le_refl _

end Interrupts.Pit
