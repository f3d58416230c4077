import Interrupts.Pit
import Interrupts.Proofs.Kernel.Watched

/-!
# What becomes of channel 0 of the interval timer

A command that selects channel 0 with a two-byte reload makes the next two bytes on the data port
the low and the high byte of what the channel counts down from; zero stands for 65536. Latching
reprograms nothing. `Channel.after` is what the channel was told when the kernel did something to
the hardware, and `untimed` is the conduct of computations that tell it nothing.
-/

namespace Interrupts

/-! ## The channel -/

/-- **Channel 0**: the low byte of a reload of which the high one is still to come, and what it
counts down from. -/
structure Channel where
  pending : Option UInt8
  reload : Nat
  deriving DecidableEq, Repr

namespace Channel

/-- The reload that two bytes stand for. -/
def reloadOf (low high : UInt8) : Nat :=
  if low = 0 ∧ high = 0 then 65536 else 256 * high.toNat + low.toNat

/-- A byte on the command port. Bits 6 and 7 select the channel, bits 4 and 5 tell how it is
accessed. -/
def command (c : Channel) (value : UInt8) : Channel :=
  if value &&& 0xf0 = 0x30 then { c with pending := none } else c

/-- A byte on the data port. -/
def data (c : Channel) (value : UInt8) : Channel :=
  match c.pending with
  | none => { c with pending := some value }
  | some low => { pending := none, reload := reloadOf low value }

/-- What the channel makes of an event. -/
def step (c : Channel) : HardwareEvent → Channel
  | .out port value =>
    if port = Pit.commandPort then c.command value
    else if port = Pit.channel0 then c.data value
    else c
  | .store _ _ => c
  | .served _ => c

/-- **The channel after a number of events.** -/
def after (c : Channel) (events : List HardwareEvent) : Channel :=
  events.foldl step c

variable (c : Channel) (events events' : List HardwareEvent)

theorem after_append : c.after (events ++ events') = (c.after events).after events' :=
  List.foldl_append

end Channel

namespace Pit

/-! ## Divisors -/

theorem toNat_min (a b : UInt32) : (min a b).toNat = min a.toNat b.toNat := by
  rw [Nat.min_def]
  exact apply_ite UInt32.toNat (a ≤ b) a b

theorem toNat_max (a b : UInt32) : (max a b).toNat = max a.toNat b.toNat := by
  rw [Nat.max_def]
  exact apply_ite UInt32.toNat (a ≤ b) b a

/-- **The divisor of a rate**, in numbers. -/
theorem toNat_divisorFor (hz : UInt32) :
    (divisorFor hz).toNat = min (max (1193182 / max hz.toNat 1) 1) 65536 := by
  have hrate : (if hz = 0 then 1 else hz).toNat = max hz.toNat 1 := by
    by_cases h : hz = 0
    · rw [if_pos h, h]
      rfl
    · have hne : hz.toNat ≠ 0 := fun hzero => h (UInt32.toNat_inj.mp hzero)
      rw [if_neg h]
      omega
  unfold divisorFor
  dsimp only
  rw [toNat_min, toNat_max, UInt32.toNat_div, hrate]
  rfl

/-- The divisor is never zero and never past what sixteen bits, with zero for their full range, can
say. -/
theorem divisorFor_bounds (hz : UInt32) :
    1 ≤ (divisorFor hz).toNat ∧ (divisorFor hz).toNat ≤ 65536 := by
  rw [toNat_divisorFor]
  omega

/-- What is written to make the channel count down from a divisor. -/
def reloading (divisor : UInt32) : List HardwareEvent :=
  [.out commandPort squareWaveCommand, .out channel0 divisor.toUInt16.toUInt8,
    .out channel0 (divisor.toUInt16 >>> 8).toUInt8]

/-- Two bytes tell every divisor. -/
theorem reloadOf_divisor {divisor : UInt32} (hpos : 1 ≤ divisor.toNat)
    (hle : divisor.toNat ≤ 65536) :
    Channel.reloadOf divisor.toUInt16.toUInt8 (divisor.toUInt16 >>> 8).toUInt8
      = divisor.toNat := by
  have hlow : divisor.toUInt16.toUInt8.toNat = divisor.toNat % 256 := by
    rw [UInt16.toNat_toUInt8, UInt32.toNat_toUInt16]
    omega
  have hhigh : (divisor.toUInt16 >>> 8).toUInt8.toNat = divisor.toNat % 65536 / 256 := by
    rw [UInt16.toNat_toUInt8, UInt16.toNat_shiftRight, UInt32.toNat_toUInt16,
      show (8 : UInt16).toNat % 16 = 8 from rfl, Nat.shiftRight_eq_div_pow]
    omega
  -- 65536 is the one divisor whose two bytes are both zero
  unfold Channel.reloadOf
  simp only [← UInt8.toNat_inj, hlow, hhigh, UInt8.toNat_zero]
  split
  · omega
  · omega

/-- **Programming a divisor** makes the channel count down from it, whatever it did before. -/
theorem after_reloading (c : Channel) {divisor : UInt32} (hpos : 1 ≤ divisor.toNat)
    (hle : divisor.toNat ≤ 65536) :
    c.after (reloading divisor) = { pending := none, reload := divisor.toNat } := by
  rw [← reloadOf_divisor hpos hle]
  rfl

end Pit

/-! ## Leaving the channel alone -/

/-- **Nothing was told to the channel** between two states of the hardware. -/
def Untold {η : Type} (hw hw' : η × List HardwareEvent) : Prop :=
  ∃ events, hw'.2 = hw.2 ++ events ∧ ∀ c : Channel, c.after events = c

namespace Untold

variable {η : Type} {hw hw' hw'' : η × List HardwareEvent}

/-- The channel is as it was. -/
theorem after (h : Untold hw hw') (c : Channel) : c.after hw'.2 = c.after hw.2 := by
  obtain ⟨events, heq, hsame⟩ := h
  rw [heq, c.after_append, hsame]

theorem of_eq (h : hw'.2 = hw.2) : Untold hw hw' :=
  ⟨[], h.trans (List.append_nil _).symm, fun _ => rfl⟩

theorem one {e : HardwareEvent} (h : hw'.2 = hw.2 ++ [e]) (he : ∀ c : Channel, c.step e = c) :
    Untold hw hw' :=
  ⟨[e], h, he⟩

/-- What is not told in two stretches is not told in the whole. -/
theorem trans (h : Untold hw hw') (h' : Untold hw' hw'') : Untold hw hw'' := by
  obtain ⟨events, heq, hsame⟩ := h
  obtain ⟨events', heq', hsame'⟩ := h'
  refine ⟨events ++ events', by rw [heq', heq, List.append_assoc], fun c => ?_⟩
  rw [c.after_append, hsame, hsame']

end Untold

/-- **The conduct of computations that leave the channel alone.** They may stop in any way. -/
def untimed (X : Surroundings) [Behaviour X] : Conduct (Watched X) where
  keeps := Untold
  mayWrite port value := ∀ c : Channel, c.step (.out port value) = c
  mayStore _ _ := True
  mayCount := True
  steady := False
  alsoStops _ := True
  refl := fun _ => .of_eq rfl
  trans := Untold.trans
  serial := fun _ _ => rfl
  portRead := fun _ _ => .of_eq rfl
  portWrite := fun h _ => .one rfl h
  load := fun _ _ => .of_eq rfl
  store := fun {address value} _ _ => .one (e := .store address value) rfl fun _ => rfl
  place := fun _ _ _ => .of_eq rfl
  allocate := fun _ _ => .of_eq rfl
  arrivals := fun _ => .of_eq rfl
  console := fun _ _ => .of_eq rfl
  serve := fun _ irq _ _ => .one (e := .served irq) rfl fun _ => rfl
  runHook := fun _ _ _ _ => .of_eq rfl
  externalIrq := fun _ _ _ => .of_eq rfl
  externalEoi := fun _ _ _ _ => .of_eq rfl

end Interrupts
