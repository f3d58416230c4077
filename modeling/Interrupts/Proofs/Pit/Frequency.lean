import Mathlib.Order.Bounds.Basic
import Interrupts.Proofs.Checked
import Interrupts.Proofs.Pit.Channel

/-!
# The divisor of a rate, and the rate of a divisor

A wanted rate becomes a divisor, two divisions and two bounds away from the rate that is answered.
Two facts about the divisor carry the rest. As many periods of it as the wanted rate has fit into a
second (`divisorFor_mul_le`), so the answered rate is never below the wanted one; and no divisor
that is in range and fits as well is larger (`le_divisorFor`). The divisor of an answered rate is
therefore at least the one it was answered for, and has the same rate.
-/

namespace Interrupts.Pit

section Divisors

variable {hz : UInt32} {d : Nat}

/-- **As many periods of the divisor as the rate has fit into a second**, up to the rate of the
counter itself. -/
theorem divisorFor_mul_le (hz : UInt32) :
    (divisorFor hz).toNat * min hz.toNat 1193182 ≤ 1193182 := by
  have hfit : 1193182 / max hz.toNat 1 * max hz.toNat 1 ≤ 1193182 := Nat.div_mul_le_self _ _
  have hle : (divisorFor hz).toNat ≤ max (1193182 / max hz.toNat 1) 1 := by
    rw [toNat_divisorFor]
    exact min_le_left _ _
  refine le_trans (Nat.mul_le_mul_right _ hle) ?_
  -- a quotient of zero is raised to one, where the input frequency itself is the bound
  rcases le_total (1193182 / max hz.toNat 1) 1 with hsmall | hlarge
  · rw [max_eq_right hsmall, Nat.one_mul]
    exact min_le_right _ _
  · rw [max_eq_left hlarge]
    refine le_trans (Nat.mul_le_mul_left _ ?_) hfit
    exact le_trans (min_le_left _ _) (le_max_left _ _)

/-- **No divisor in range that fits is larger.** -/
theorem le_divisorFor (hfit : d * max hz.toNat 1 ≤ 1193182) (hle : d ≤ 65536) :
    d ≤ (divisorFor hz).toNat := by
  rw [toNat_divisorFor]
  refine le_min (le_trans ?_ (le_max_left _ _)) hle
  exact (Nat.le_div_iff_mul_le (Nat.lt_of_lt_of_le Nat.one_pos (le_max_right _ _))).mpr hfit

/-- **For a rate between the two bounds the divisor is the largest one that fits.** -/
theorem isGreatest_divisorFor (h : 19 ≤ hz.toNat) (h' : hz.toNat ≤ 1193182) :
    IsGreatest {d | d * hz.toNat ≤ 1193182} (divisorFor hz).toNat := by
  refine ⟨?_, fun d hd => ?_⟩
  · have hfit := divisorFor_mul_le hz
    rwa [min_eq_left h'] at hfit
  · have hsmall : d * 19 ≤ d * hz.toNat := Nat.mul_le_mul_left d h
    have hd : d * hz.toNat ≤ 1193182 := hd
    refine le_divisorFor ?_ (by omega)
    rwa [max_eq_left (le_trans (by decide) h)]

/-- **The rate that is answered.** -/
def rateFor (hz : UInt32) : UInt32 :=
  baseFrequency / divisorFor hz

theorem toNat_rateFor (hz : UInt32) : (rateFor hz).toNat = 1193182 / (divisorFor hz).toNat :=
  UInt32.toNat_div _ _

/-- **The rate is never too low.** -/
theorem min_le_rateFor (hz : UInt32) : min hz.toNat 1193182 ≤ (rateFor hz).toNat := by
  rw [toNat_rateFor, Nat.le_div_iff_mul_le (divisorFor_bounds hz).1, Nat.mul_comm]
  exact divisorFor_mul_le hz

/-- **A rate that was answered is answered for itself.** -/
theorem rateFor_rateFor (hz : UInt32) : rateFor (rateFor hz) = rateFor hz := by
  obtain ⟨hpos, hle⟩ := divisorFor_bounds hz
  have hrate := toNat_rateFor hz
  have hpos' : 1 ≤ (rateFor hz).toNat := by
    rw [hrate, Nat.le_div_iff_mul_le hpos]
    omega
  refine UInt32.toNat_inj.mp (le_antisymm ?_ ?_)
  · -- The divisor of the answered rate is at least the one it was answered for.
    have hlarger : (divisorFor hz).toNat ≤ (divisorFor (rateFor hz)).toNat := by
      refine le_divisorFor ?_ hle
      rw [max_eq_left hpos', hrate]
      exact Nat.mul_div_le _ _
    rw [toNat_rateFor (rateFor hz), hrate]
    exact Nat.div_le_div_left hlarger hpos
  · have hlow := min_le_rateFor (rateFor hz)
    rwa [min_eq_left (by rw [hrate]; exact Nat.div_le_self _ _)] at hlow

end Divisors

/-! ## Programming -/

/-- The divisor and the rate, both divisions checked. -/
def rates? (hz : UInt32) : Option (Nat × Nat) := do
  let quotient ← quotient? 1193182 (max hz.toNat 1)
  let divisor := min (max quotient 1) 65536
  let rate ← quotient? 1193182 divisor
  pure (divisor, rate)

/-- **Nothing is divided by zero.** -/
theorem rates?_eq (hz : UInt32) :
    rates? hz = some ((divisorFor hz).toNat, (rateFor hz).toNat) := by
  have hpos := (divisorFor_bounds hz).1
  unfold rates?
  rw [quotient?_of_ne (by omega), Option.bind_eq_bind, Option.bind_some]
  dsimp only
  rw [← toNat_divisorFor, quotient?_of_ne (by omega), toNat_rateFor]
  rfl

/-- **Programming a rate writes these two bytes and answers this rate**, whatever is behind the
ports. -/
def Programs (hz : UInt32) (low high : UInt8) (rate : UInt32) : Prop :=
  ∀ (P : Type) (m : Type → Type) [Monad m] [PortBus P m] [Logger m] (ports : P),
    setFrequency (m := m) ports hz = do
      PortBus.write8 ports commandPort squareWaveCommand
      PortBus.write8 ports channel0 low
      PortBus.write8 ports channel0 high
      log .debug s!"PIT: Channel 0 at {rate.toNat} Hz (divisor {Channel.reloadOf low high})"
      pure rate

/-- The channel is programmed with the two bytes of the divisor, and the rate of that divisor is
answered. -/
theorem programs_rateFor (hz : UInt32) : Programs hz (divisorFor hz).toUInt16.toUInt8
    ((divisorFor hz).toUInt16 >>> 8).toUInt8 (rateFor hz) := by
  intro P m _ _ _ ports
  obtain ⟨hpos, hle⟩ := divisorFor_bounds hz
  rw [reloadOf_divisor hpos hle]
  rfl

/-- **Programming a rate programs a divisor in range, and answers its rate.** Two bytes tell the
divisor, whatever the channel was told before. For rates between the bounds it is the largest one of
which the wanted number of periods fit into a second. The answered rate is the divisor's in whole
hertz, never below what was wanted and what the counter can do; and when it is wanted in its turn it
is what is answered. Nothing is divided by zero on the way. -/
theorem setFrequency_rates (hz : UInt32) :
    ∃ low high rate, Programs hz low high rate
      ∧ (let d := Channel.reloadOf low high
        (∀ c : Channel, c.after [.out commandPort squareWaveCommand, .out channel0 low,
            .out channel0 high] = { pending := none, reload := d })
          ∧ 1 ≤ d ∧ d ≤ 65536
          ∧ (19 ≤ hz.toNat → hz.toNat ≤ 1193182 → IsGreatest {d | d * hz.toNat ≤ 1193182} d)
          ∧ rate.toNat = 1193182 / d
          ∧ rates? hz = some (d, rate.toNat))
      ∧ min hz.toNat 1193182 ≤ rate.toNat
      ∧ ∃ low' high', Programs rate low' high' rate
        ∧ rate.toNat = 1193182 / Channel.reloadOf low' high' := by
  obtain ⟨hpos, hle⟩ := divisorFor_bounds hz
  obtain ⟨hpos', hle'⟩ := divisorFor_bounds (rateFor hz)
  have hagain := programs_rateFor (rateFor hz)
  have hrate := toNat_rateFor (rateFor hz)
  rw [rateFor_rateFor] at hagain hrate
  refine ⟨_, _, rateFor hz, programs_rateFor hz, ?_, min_le_rateFor hz, _, _, hagain, ?_⟩
  · rw [reloadOf_divisor hpos hle]
    exact ⟨fun c => after_reloading c hpos hle, hpos, hle, isGreatest_divisorFor,
      toNat_rateFor hz, rates?_eq hz⟩
  · rw [reloadOf_divisor hpos' hle']
    exact hrate

end Interrupts.Pit
