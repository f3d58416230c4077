import Interrupts.Processor.Launch
import Interrupts.Proofs.Kernel.Ticking
import Interrupts.Proofs.Pit.Delay

/-!
# The delays of bring-up

Starting a processor takes delays between the commands, which are polled on channel 0 of the
interval timer. With the APICs in charge nobody has programmed it. When they were given up on, the
same channel was programmed for the tick, and counts down from its divisor since. The Local APIC may
be up all the same, and then processors are still started.
-/

namespace Interrupts

open Boot
open Acpi (PlatformTables)

/-! ## The reload of the tick -/

/-- The slowest rate of the counter is the one for all requests up to 18. -/
theorem Pit.divisorFor_eq_max_iff {hz : UInt32} (hpos : 1 ≤ hz.toNat) :
    (Pit.divisorFor hz).toNat = 65536 ↔ hz.toNat ≤ 18 := by
  rw [Pit.toNat_divisorFor, max_eq_left hpos]
  constructor
  · intro h
    by_contra hlt
    have hsmall : 1193182 / hz.toNat ≤ 1193182 / 19 :=
      Nat.div_le_div_left (Nat.lt_of_not_le hlt) (by decide)
    omega
  · intro hle
    have hlarge : 1193182 / 18 ≤ 1193182 / hz.toNat := Nat.div_le_div_left hle hpos
    omega

/-- No rate that a command line may ask for takes the counter to its shortest round. -/
theorem Pit.one_lt_divisorFor {hz : UInt32} (hle : hz.toNat ≤ 10000) :
    1 < (Pit.divisorFor hz).toNat := by
  rw [Pit.toNat_divisorFor]
  have hlarge : 1193182 / 10000 ≤ 1193182 / max hz.toNat 1 :=
    Nat.div_le_div_left (max_le hle (by decide)) (by omega)
  omega

/-- A delay is rounded up to milliseconds, so that only none is no delay. -/
theorem Launcher.milliseconds_eq_zero_iff {us : UInt32} :
    Launcher.milliseconds us = 0 ↔ us = 0 := by
  have hdiv : (us / 1000).toNat = us.toNat / 1000 := UInt32.toNat_div us 1000
  have hmod : (us % 1000).toNat = us.toNat % 1000 := UInt32.toNat_mod us 1000
  have hlt := us.toNat_lt
  unfold milliseconds
  rw [← UInt32.toNat_inj, ← UInt32.toNat_inj (a := us), UInt32.toNat_add, hdiv, UInt32.toNat_zero]
  by_cases h : us % 1000 = 0
  · rw [h, UInt32.toNat_zero] at hmod
    rw [if_pos h, UInt32.toNat_zero]
    omega
  · rw [if_neg h, show (1 : UInt32).toNat = 1 from rfl]
    have hne : us.toNat % 1000 ≠ 0 := fun hzero => h (UInt32.toNat_inj.mp (hmod.trans hzero))
    omega

namespace Kernel

variable {X : Surroundings} [Behaviour X] {k k' : Kernel (Watched X)} {T : Type} [PlatformTables T]
  {platform p' : Recorded T} {paging : KernelPaging (Watched X)}

/-- **Polled delays are long enough for the largest reload only.** The channel counts down from it
when the machine is switched on, and after every boot, whoever is in charge then, unless the 8259
pair is and its tick was wanted at more than 18 Hz. Starting the other processors does not change
what it counts down from. -/
theorem delays_longEnough_iff {line : Option String} {mode : IrqMode} {c : Channel}
    (h : initControllers (.ofCommandLine line) platform paging k = .ok (mode, p') k')
    (hfresh : (c.after k.events).reload = 65536) :
    (∀ (reload : Nat) (ms : UInt32), 1 ≤ reload → reload ≤ 65536 →
      ms.toNat * 1193182 / 1000 < UInt32.size →
        (Pit.LongEnough reload ms ↔ reload = 65536 ∨ reload = 1 ∨ ms = 0))
      ∧ (∀ outcome k'', initProcessors p' paging k' = .ok outcome k'' →
        (c.after k''.events).reload = (c.after k'.events).reload)
      ∧ ∀ us : UInt32, (Launcher.milliseconds us).toNat * 1193182 / 1000 < UInt32.size →
        (Pit.LongEnough (c.after k'.events).reload (Launcher.milliseconds us)
          ↔ mode = .apic ∨ (Config.ofCommandLine line).timerHz.toNat ≤ 18 ∨ us = 0) := by
  refine ⟨fun reload ms hreload hreload' hfits => Pit.longEnough_iff hreload hreload' hfits,
    fun outcome k'' hbringUp =>
      congrArg Channel.reload (((leaves_initProcessors paging p').untold hbringUp).after c),
    fun us hfits => ?_⟩
  obtain ⟨rfl, hreload⟩ | ⟨rfl, hreload⟩ := initControllers_reload h c
  · rw [hreload, hfresh, Pit.longEnough_iff (by decide) (Nat.le_refl _) hfits]
    exact iff_of_true (.inl rfl) (.inl rfl)
  · obtain ⟨hpos, hle⟩ := (Config.isSound_ofCommandLine line).timerHz
    obtain ⟨hdivisor, hdivisor'⟩ := Pit.divisorFor_bounds (Config.ofCommandLine line).timerHz
    have hne := Nat.ne_of_gt (Pit.one_lt_divisorFor hle)
    rw [hreload, Pit.longEnough_iff hdivisor hdivisor' hfits, Pit.divisorFor_eq_max_iff hpos,
      Launcher.milliseconds_eq_zero_iff, or_iff_right (fun h : IrqMode.pic = .apic => nomatch h)]
    exact or_congr_right (or_iff_right hne)

end Kernel

namespace Clockwork

/-- With the tick at 18 Hz the delay after an INIT is long enough. -/
theorem delays_longEnough_eighteen :
    ∃ p' k', initControllers (X := Watched Clockwork)
        (.ofCommandLine (some "irq.force_pic=on timer.hz=18")) platform (.registered ()) start
        = .ok (.pic, p') k'
      ∧ ((⟨none, 65536⟩ : Channel).after (start.events)).reload = 65536
      ∧ Pit.LongEnough ((⟨none, 65536⟩ : Channel).after k'.events).reload
          (Launcher.milliseconds 10000) := by
  obtain ⟨p', k', hsetup⟩ :=
    exists_setupWith "irq.force_pic=on timer.hz=18" (by decide +kernel)
  obtain ⟨-, -, hlong⟩ := Kernel.delays_longEnough_iff (c := ⟨none, 65536⟩) hsetup rfl
  exact ⟨p', k', hsetup, rfl, (hlong 10000 (by decide)).mpr (by decide +kernel)⟩

end Clockwork

/-! ## A machine without an I/O APIC -/

/-- A machine whose interval timer counts down from 11931, and reads 257 and 11822 in turn. -/
def Pendulum : Surroundings :=
  Watched Still

namespace Pendulum

/-- The event of latching the counter. -/
def latching : HardwareEvent :=
  .out Pit.commandPort Pit.latchCommand

/-- The readings so far. -/
def latches (events : List HardwareEvent) : Nat :=
  events.count latching

/-- Both bytes of a reading, by the number of the readings so far. -/
def byteAt (n : Nat) : UInt8 :=
  if n % 2 = 1 then 1 else 46

instance : Behaviour Pendulum :=
  { (inferInstance : Behaviour (Watched Still)) with
    portRead := fun _ hw => (byteAt (latches hw.2), hw)
    readMsr := fun _ hw => (0xfee00900, hw) }

/-- A reading. -/
def countAt (n : Nat) : UInt16 :=
  ((byteAt n).toUInt16 <<< 8) ||| (byteAt n).toUInt16

/-- The ticks that have gone by when `n` ticks and one were read. -/
def goneAt (n : Nat) : Nat :=
  11674 + 366 * ((n + 1) / 2) + 11565 * (n / 2)

variable (k : Kernel (Watched Pendulum))

/-- The readings that the timer of a kernel has given. -/
def latchesOf : Nat :=
  latches k.hardware.1.2

/-- The ticks that have gone by on it. -/
def gone : Nat :=
  goneAt (latchesOf k - 1)

/-- The kernel after one more reading. -/
def latched : Kernel (Watched Pendulum) :=
  { k with
    hardware := ((k.hardware.1.1, k.hardware.1.2 ++ [latching]), k.hardware.2 ++ [latching]) }

theorem latchesOf_latched : latchesOf (latched k) = latchesOf k + 1 :=
  List.count_append

/-- Each look at the swinging counter latches it once more. -/
theorem readCount_eq :
    Pit.readCount (m := Boot (Watched Pendulum)) ports k
      = .ok (countAt (latchesOf k + 1)) (latched k) := by
  rw [← latchesOf_latched]
  rfl

/-- The count swings between two values. -/
theorem toNat_countAt (n : Nat) : (countAt n).toNat = if n % 2 = 1 then 257 else 11822 := by
  unfold countAt byteAt
  split
  · rfl
  · rfl

/-- So its readings are those of a counter of 11931 steps that goes on in between. -/
theorem reads_countAt (n : Nat) : Pit.Reads 11931 (countAt (n + 1)) (goneAt n) := by
  unfold Pit.Reads goneAt
  rw [toNat_countAt]
  split
  · omega
  · omega

/-- The machine's timer keeps to the law of a counter. -/
theorem counts : Pit.Counts ports 11931 gone fun _ : Kernel (Watched Pendulum) => True := by
  intro k _
  refine ⟨_, _, readCount_eq k, trivial, ?_, ?_, ?_⟩
  · unfold gone
    rw [latchesOf_latched]
    exact reads_countAt _
  · unfold gone goneAt
    rw [latchesOf_latched]
    omega
  · unfold gone goneAt
    rw [latchesOf_latched]
    omega

/-- The kernel of the machine when it was just switched on. -/
def start : Kernel (Watched Pendulum) :=
  { hardware := (((), []), []) }

/-- A table of two processors without an I/O APIC. -/
def processorsImage : Acpi.MadtImage where
  maker := List.replicate 28 0
  maker_length := Acpi.MadtImage.length_blank
  lapicAddress := 0xFEE00000
  flags := 1
  entries := [.localApic { processorId := 0, apicId := 0, flags := 1 } [],
    .localApic { processorId := 1, apicId := 1, flags := 1 } []]
  entry_fits := by decide
  fits := by decide

/-- What its firmware says. -/
def platform : Recorded Acpi.MadtPlatform :=
  { platform := { madt := some ⟨processorsImage.bytes⟩ }, told := [] }

/-- The setup of its controllers. -/
def setup :
    EStateM.Result Stop (Kernel (Watched Pendulum)) (IrqMode × Recorded Acpi.MadtPlatform) :=
  initControllers (X := Watched Pendulum) (.ofCommandLine none) platform (.registered ()) start

/-- Who ends up in charge, whether the Local APIC came up, and how often the timer was read. -/
def view : Option (IrqMode × Bool × Nat) :=
  match setup with
  | .ok reply k => some (reply.1, k.localApic.get?.isSome, latchesOf k)
  | .error _ _ => none

theorem view_eq : view = some (.pic, true, 0) := by
  decide +kernel

/-- The setup comes to an end with the pair in charge and the Local APIC up. -/
theorem exists_setup : ∃ p' k' a, setup = .ok (.pic, p') k' ∧ k'.localApic.get? = some a
    ∧ latchesOf k' = 0 := by
  have hview := view_eq
  unfold view at hview
  split at hview
  next reply k' hsetup =>
    obtain ⟨mode, p'⟩ := reply
    obtain ⟨hmode, hrest⟩ := Prod.mk.inj (Option.some.inj hview)
    obtain ⟨hlocal, hlatches⟩ := Prod.mk.inj hrest
    obtain ⟨a, ha⟩ := Option.isSome_iff_exists.mp hlocal
    obtain rfl : mode = .pic := hmode
    exact ⟨p', k', a, hsetup, ha, hlatches⟩
  next => exact nomatch hview

/-- **The delay after an INIT returns early** on this machine: its counter starts over between the
first two readings, after 366 ticks. -/
theorem delay_early {k : Kernel (Watched Pendulum)} (h : latchesOf k = 0)
    (l : Launcher Window MachinePorts) :
    l.delay (m := Boot (Watched Pendulum)) 10000 k = .ok () (latched (latched k)) := by
  have hfirst := readCount_eq k
  have hsecond := readCount_eq (latched k)
  rw [latchesOf_latched, h] at hsecond
  rw [h] at hfirst
  unfold Launcher.delay Pit.pollDelay
  rw [if_neg (by decide), bind_of_ok hfirst,
    show Pit.defaultPatience = 0xffffffffff + 1 from rfl, Pit.countTo_succ (by decide),
    bind_of_ok hsecond, Pit.countTo_done (by decide)]
  rfl

/-- **A boot that falls back to the 8259 pair** while the Local APIC stays up: the tick at 100 Hz
makes the channel count down from 11931, and the ten milliseconds after an INIT, which are 11931
ticks, are over after 366. -/
theorem not_longEnough_fallback :
    ∃ p' k' a k'', initControllers (X := Watched Pendulum) (.ofCommandLine none) platform
        (.registered ()) start = .ok (.pic, p') k'
      ∧ k'.localApic.get? = some a ∧ (∀ c : Channel, (c.after k'.events).reload = 11931)
      ∧ Pit.Counts ports 11931 gone (fun _ : Kernel (Watched Pendulum) => True)
      ∧ (∀ l : Launcher Window MachinePorts,
        l.delay (m := Boot (Watched Pendulum)) 10000 k' = .ok () k'')
      ∧ gone k'' = gone k' + 366 ∧ (10000 : Nat) * 1193182 / 1000000 = 11931
      ∧ ¬Pit.LongEnough 11931 (Launcher.milliseconds 10000) := by
  obtain ⟨p', k', a, hsetup, ha, hlatches⟩ := exists_setup
  obtain ⟨reported, t, hticks⟩ := Kernel.initControllers_ticks hsetup
  have hhz : (Config.ofCommandLine none).timerHz = 100 := by decide +kernel
  have hgone : gone (latched (latched k')) = gone k' + 366 := by
    unfold gone
    rw [latchesOf_latched, latchesOf_latched, hlatches]
    rfl
  refine ⟨p', k', a, latched (latched k'), hsetup, ha, fun c => ?_, counts, delay_early hlatches,
    hgone, rfl, fun hlong => ?_⟩
  · rw [hticks.channel, hhz]
    rfl
  · have hlasted := hlong MachinePorts (Kernel (Watched Pendulum)) ports gone _ counts
      Pit.defaultPatience k' _ trivial
      (delay_early hlatches { localApic := a, ports, blockAddress := 0, budget := ⟨0⟩, template := {} })
    rw [hgone] at hlasted
    exact absurd (Nat.le_of_add_le_add_left hlasted) (by decide)

end Pendulum

end Interrupts
