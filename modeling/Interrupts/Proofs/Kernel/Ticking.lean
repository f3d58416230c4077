import Interrupts.Proofs.Kernel.Acknowledge
import Interrupts.Proofs.Kernel.Untimed

/-!
# What the tick knows about its rate

With the 8259 pair in charge the interval timer ticks. It is programmed with a divisor, and so
ticks at a rate that is in general not quite the one that was wanted: `Pit.setFrequency` answers
the one that it really is, in whole hertz. The handler of the tick is installed with the rate that
was wanted. `knowsRate_iff` says for which rates that makes a difference.
-/

namespace Interrupts

open Boot
open Acpi (PlatformTables)

/-! ## Rates and divisors -/

/-- **A rate is met by its divisor**, in whole hertz. -/
def IsMetRate (hz : Nat) : Prop :=
  18 ≤ hz ∧ 1193182 % hz < 1193182 / hz

instance : DecidablePred IsMetRate := fun _ => inferInstanceAs (Decidable (_ ∧ _))

/-- The rate of the divisor of a rate is this rate again, if it is met. -/
theorem div_divisor_eq_iff {n : Nat} (hpos : 1 ≤ n) (hle : n ≤ 1193182) :
    1193182 / min (max (1193182 / n) 1) 65536 = n ↔ IsMetRate n := by
  rcases Nat.lt_or_ge n 19 with hlt | hge
  · -- The divisors of these rates are too large, and replaced by the largest one.
    have hall : ∀ n < 19, 1 ≤ n →
        (1193182 / min (max (1193182 / n) 1) 65536 = n ↔ IsMetRate n) := by decide
    exact hall n hlt hpos
  · have hone : 1 ≤ 1193182 / n := Nat.div_pos hle hpos
    have hsmall : 1193182 / n ≤ 62799 := Nat.div_le_div_left hge (by decide)
    have hsplit : n * (1193182 / n) + 1193182 % n = 1193182 := Nat.div_add_mod 1193182 n
    rw [show min (max (1193182 / n) 1) 65536 = 1193182 / n by omega, Nat.div_eq_iff hone]
    unfold IsMetRate
    generalize n * (1193182 / n) = product at *
    omega

namespace TimerTick

/-- **A tick tells the time** of periods of a divisor: in whole milliseconds, for periods at the
divisor's rate in whole hertz. -/
def TellsTime (t : TimerTick) (divisor : Nat) : Prop :=
  ∀ n : UInt64, n.toNat * 1000 < UInt64.size →
    ∃ ms, t.ticksToMs (m := Except Stop) n = .ok ms
      ∧ ms.toNat = n.toNat * 1000 / (1193182 / divisor)

/-- The milliseconds of some ticks are computed as long as their product fits in a word. -/
theorem ticksToMs_eq {t : TimerTick} (hpos : 1 ≤ t.hz.toNat) {n : UInt64}
    (h : n.toNat * 1000 < UInt64.size) :
    t.ticksToMs (m := Except Stop) n = .ok (n * 1000 / t.hz.toUInt64) := by
  have hne : t.hz ≠ 0 := fun hzero => by
    rw [hzero] at hpos
    exact absurd hpos (by decide)
  unfold ticksToMs mulWord64
  rw [if_neg hne, if_pos (show n.toNat * (1000 : UInt64).toNat < UInt64.size from h)]
  rfl

theorem toNat_ticksToMs {hz : UInt32} {n : UInt64} (h : n.toNat * 1000 < UInt64.size) :
    (n * 1000 / hz.toUInt64).toNat = n.toNat * 1000 / hz.toNat := by
  rw [UInt64.toNat_div, UInt64.toNat_mul, UInt32.toNat_toUInt64]
  exact congrArg (· / hz.toNat) (Nat.mod_eq_of_lt h)

/-- It does so when it knows the rate, and only then. -/
theorem tellsTime_iff {t : TimerTick} {divisor : Nat} (hpos : 1 ≤ t.hz.toNat)
    (hle : t.hz.toNat ≤ 1193182) (hdivisor : 1 ≤ divisor) (hdivisor' : divisor ≤ 1193182) :
    t.TellsTime divisor ↔ t.hz.toNat = 1193182 / divisor := by
  constructor
  · intro h
    unfold TellsTime at h
    have hrate : 1 ≤ 1193182 / divisor := Nat.div_pos hdivisor' hdivisor
    have hrate' : 1193182 / divisor ≤ 1193182 := Nat.div_le_self _ _
    generalize 1193182 / divisor = rate at *
    -- As many periods as the product of the two rates last a different time at each of them.
    have hproduct : t.hz.toNat * rate ≤ 1193182 * 1193182 := Nat.mul_le_mul hle hrate'
    have hn : (UInt64.ofNat (t.hz.toNat * rate)).toNat = t.hz.toNat * rate :=
      UInt64.toNat_ofNat_of_lt' (by unfold UInt64.size; omega)
    have hfits : (UInt64.ofNat (t.hz.toNat * rate)).toNat * 1000 < UInt64.size := by
      rw [hn]
      unfold UInt64.size
      omega
    obtain ⟨ms, hms, heq⟩ := h _ hfits
    rw [ticksToMs_eq hpos hfits, Except.ok.injEq] at hms
    rw [← hms, toNat_ticksToMs hfits, hn] at heq
    rw [Nat.mul_assoc, Nat.mul_div_cancel_left _ hpos, Nat.mul_left_comm,
      Nat.mul_div_cancel_left _ hrate] at heq
    omega
  · intro h n hn
    rw [← h]
    exact ⟨_, ticksToMs_eq hpos hn, toNat_ticksToMs hn⟩

end TimerTick

/-! ## Programming the rate -/

namespace Kernel

variable {X : Surroundings} [Behaviour X] {k k' : Kernel (Watched X)} {u : Unit}

/-- **Programming a rate** answers the rate of the divisor, and makes the channel count down from
it. -/
theorem setFrequency_eq_ok {p : MachinePorts} {hz reported : UInt32}
    (h : Pit.setFrequency (m := Boot (Watched X)) p hz k = .ok reported k') :
    reported.toNat = 1193182 / (Pit.divisorFor hz).toNat
      ∧ ∀ c : Channel,
        c.after k'.events = { pending := none, reload := (Pit.divisorFor hz).toNat } := by
  obtain ⟨_, k₁, hcommand, h⟩ := bind_eq_ok.mp h
  obtain ⟨_, k₂, hlow, h⟩ := bind_eq_ok.mp h
  obtain ⟨_, k₃, hhigh, h⟩ := bind_eq_ok.mp h
  obtain ⟨_, k₄, hlog, h⟩ := bind_eq_ok.mp h
  obtain ⟨rfl, rfl⟩ := pure_eq_ok.mp h
  obtain ⟨hpos, hle⟩ := Pit.divisorFor_bounds hz
  have huntold := (leaves_log _ _).untold hlog
  have hwritten : k₃.events = k.events ++ Pit.reloading (Pit.divisorFor hz) := by
    rw [write8_events hhigh, write8_events hlow, write8_events hcommand, List.append_assoc,
      List.append_assoc]
    rfl
  refine ⟨UInt32.toNat_div _ _, fun c => ?_⟩
  rw [show c.after k₄.events = c.after k₃.events from huntold.after c, hwritten, c.after_append,
    Pit.after_reloading _ hpos hle]

section Boot

variable {T : Type} [PlatformTables T] {cfg : Config} {platform p' : Recorded T}
  {paging : KernelPaging (Watched X)} {mode : IrqMode}

/-- **Who takes charge decides about the rate**: the APICs leave the channel alone, and the pair
programs the rate last. -/
theorem takeCharge_times (h : takeCharge cfg platform paging k = .ok (mode, p') k') :
    (mode = .apic ∧ Untold k.hardware k'.hardware)
      ∨ mode = .pic ∧ ∃ mid reported mid',
        Pit.setFrequency (m := Boot (Watched X)) ports cfg.timerHz mid = .ok reported mid'
          ∧ Untold mid'.hardware k'.hardware := by
  obtain ⟨⟨c, p⟩, k₁, htry, h⟩ := bind_eq_ok.mp h
  cases c with
  | some c =>
    obtain ⟨_, k₂, hactive, h⟩ := bind_eq_ok.mp h
    obtain ⟨_, k₃, htick, h⟩ := bind_eq_ok.mp h
    obtain ⟨hreply, rfl⟩ := pure_eq_ok.mp h
    obtain ⟨rfl, -⟩ := Prod.mk.inj hreply
    -- The Local APIC's timer is measured against the counter, but not by programming it.
    have htried := (leaves_tryApics platform paging cfg).untold htry
    have hactivated := (leaves_setActive _).untold hactive
    have hticking := (leaves_startApicTick _ _).untold htick
    exact .inl ⟨rfl, (htried.trans hactivated).trans hticking⟩
  | none =>
    obtain ⟨_, k₂, hmodel, h⟩ := bind_eq_ok.mp h
    obtain ⟨_, k₃, honPic, h⟩ := bind_eq_ok.mp h
    obtain ⟨_, k₄, hactive, h⟩ := bind_eq_ok.mp h
    obtain ⟨reported, k₅, hrate, h⟩ := bind_eq_ok.mp h
    obtain ⟨_, k₆, hlog, h⟩ := bind_eq_ok.mp h
    obtain ⟨hreply, rfl⟩ := pure_eq_ok.mp h
    obtain ⟨rfl, -⟩ := Prod.mk.inj hreply
    exact .inr ⟨rfl, k₄, reported, k₅, hrate, (leaves_log _ _).untold hlog⟩

/-- The stages of the setup. -/
theorem initControllers_stages (h : initControllers cfg platform paging k = .ok (mode, p') k') :
    ∃ k₁ k₂, Untold k.hardware k₁.hardware
      ∧ takeCharge cfg platform paging k₁ = .ok (mode, p') k₂
      ∧ settle cfg (mode, p') k₂ = .ok (mode, p') k' := by
  rw [initControllers_eq] at h
  obtain ⟨_, k₁, hlog, h⟩ := bind_eq_ok.mp h
  obtain ⟨_, k₂, hoffsets, h⟩ := bind_eq_ok.mp h
  obtain ⟨reply, k₃, hcharge, hsettle⟩ := bind_eq_ok.mp h
  obtain rfl := (settle_eq_ok hsettle).1
  have hlogged := (leaves_log _ _).untold hlog
  have hchosen := (leaves_onPic fun _ => .pure _).untold hoffsets
  exact ⟨k₂, k₃, hlogged.trans hchosen, hcharge, hsettle⟩

/-- **What a boot that ends on the pair leaves behind**: the rate that was programmed last, the
channel that counts down from its divisor, and the tick that was installed. -/
structure Ticks (k : Kernel (Watched X)) (cfg : Config) (reported : UInt32) (t : TimerTick) :
    Prop where
  /-- The rate was answered when it was programmed, and nothing was told to the channel since. -/
  programmed : ∃ mid mid', Pit.setFrequency (m := Boot (Watched X)) ports cfg.timerHz mid
        = .ok reported mid'
    ∧ Untold mid'.hardware k.hardware
  /-- Whatever the channel was told before, it counts down from the divisor now. -/
  channel : ∀ c : Channel,
    c.after k.events = { pending := none, reload := (Pit.divisorFor cfg.timerHz).toNat }
  /-- The rate that was answered is the one that the divisor makes. -/
  reported : reported.toNat = 1193182 / (Pit.divisorFor cfg.timerHz).toNat
  /-- The tick is the newest handler of its line. -/
  installed : ∃ id rest, k.registry.chain Pic.timerLine = ⟨id, none, .tick t⟩ :: rest
  /-- The tick was installed for the rate that was asked for. -/
  wanted : t.hz = cfg.timerHz

/-- **On the 8259 pair the tick has the rate that was asked for, and the counter the nearest
divisor**, whatever else bringing up the controllers did. -/
theorem initControllers_ticks (h : initControllers cfg platform paging k = .ok (.pic, p') k') :
    ∃ reported t, Ticks k' cfg reported t := by
  obtain ⟨k₁, k₂, -, hcharge, hsettle⟩ := initControllers_stages h
  obtain ⟨-, -, -, -, -, -, -, id, hchain⟩ := settle_eq_ok hsettle
  obtain ⟨hmode, -⟩ | ⟨-, mid, reported, mid', hrate, huntold⟩ := takeCharge_times hcharge
  · exact nomatch hmode
  obtain ⟨hreported, hchannel⟩ := setFrequency_eq_ok hrate
  have huntold := huntold.trans ((leaves_settle _ _).untold hsettle)
  refine ⟨reported, { hz := cfg.timerHz }, ⟨mid, mid', hrate, huntold⟩,
    fun c => (huntold.after c).trans (hchannel c), hreported,
    ⟨id, k₂.registry.chain Pic.timerLine, ?_⟩, rfl⟩
  rw [hchain, Function.update_self]

/-- **What the channel counts down from after the setup**: what it did before, or the divisor of the
tick. -/
theorem initControllers_reload (h : initControllers cfg platform paging k = .ok (mode, p') k')
    (c : Channel) :
    (mode = .apic ∧ (c.after k'.events).reload = (c.after k.events).reload)
      ∨ mode = .pic ∧ (c.after k'.events).reload = (Pit.divisorFor cfg.timerHz).toNat := by
  obtain ⟨k₁, k₂, hstarted, hcharge, hsettle⟩ := initControllers_stages h
  obtain ⟨rfl, hcharged⟩ | ⟨rfl, -⟩ := takeCharge_times hcharge
  · have huntold := (hstarted.trans hcharged).trans ((leaves_settle _ _).untold hsettle)
    exact .inl ⟨rfl, congrArg Channel.reload (huntold.after c)⟩
  · obtain ⟨reported, t, hticks⟩ := initControllers_ticks h
    exact .inr ⟨rfl, by rw [hticks.channel]⟩

/-- **The tick knows its rate exactly when the rate is met.** With the configuration of any command
line, on any platform and any hardware: when the 8259 pair is in charge after the setup, the newest
handler on the timer's line is a tick with the rate that was wanted. This is the rate that
`Pit.setFrequency` answered for the divisor that the channel counts down from, and the tick tells
the time of its periods, just if the rate is met. -/
theorem knowsRate_iff {line : Option String}
    (h : initControllers (.ofCommandLine line) platform paging k = .ok (.pic, p') k') :
    ∃ reported t, Ticks k' (.ofCommandLine line) reported t
      ∧ (t.hz = reported ↔ IsMetRate (Config.ofCommandLine line).timerHz.toNat)
      ∧ ((∀ c : Channel, t.TellsTime (c.after k'.events).reload)
        ↔ IsMetRate (Config.ofCommandLine line).timerHz.toNat) := by
  obtain ⟨reported, t, hticks⟩ := initControllers_ticks h
  obtain ⟨hpos, hle⟩ := (Config.isSound_ofCommandLine line).timerHz
  have hmet := div_divisor_eq_iff hpos (Nat.le_trans hle (by decide))
  obtain ⟨hdivisor, hdivisor'⟩ := Pit.divisorFor_bounds (Config.ofCommandLine line).timerHz
  -- The tick knows the rate that was asked for, so it is right if the divisor meets this rate.
  have hrate : t.hz.toNat = 1193182 / (Pit.divisorFor (Config.ofCommandLine line).timerHz).toNat
      ↔ IsMetRate (Config.ofCommandLine line).timerHz.toNat := by
    rw [hticks.wanted, ← hmet, Pit.toNat_divisorFor, max_eq_left hpos, eq_comm]
  refine ⟨reported, t, hticks, ?_, ?_⟩
  · rw [← UInt32.toNat_inj, hticks.reported, hrate]
  · have htells := t.tellsTime_iff (hticks.wanted ▸ hpos)
      (hticks.wanted ▸ Nat.le_trans hle (by decide)) hdivisor
      (Nat.le_trans hdivisor' (by decide))
    rw [← hrate, ← htells]
    constructor
    · intro hall
      have hone := hall { pending := none, reload := 0 }
      rwa [hticks.channel] at hone
    · intro hone c
      rwa [hticks.channel]

end Boot

end Kernel

/-! ## Boots without APICs -/

namespace Clockwork

/-- The setup of the machine's controllers with a command line. -/
def setupWith (line : String) :
    EStateM.Result Stop (Kernel (Watched Clockwork)) (IrqMode × Recorded Acpi.MadtPlatform) :=
  initControllers (X := Watched Clockwork) (.ofCommandLine (some line)) platform (.registered ())
    start

/-- Who ends up in charge then. -/
def modeWith (line : String) : Option IrqMode :=
  match setupWith line with
  | .ok reply _ => some reply.1
  | .error _ _ => none

/-- A command line that leads to the pair has a run that ends there. -/
theorem exists_setupWith (line : String) (h : modeWith line = some .pic) :
    ∃ p' k', setupWith line = .ok (.pic, p') k' := by
  unfold modeWith at h
  split at h
  next reply k' hsetup =>
    obtain ⟨mode, p'⟩ := reply
    obtain rfl : mode = .pic := Option.some.inj h
    exact ⟨p', k', hsetup⟩
  next => exact nomatch h

/-- At 100 Hz the tick knows its rate: the divisor is 11931. -/
theorem knowsRate_hundred :
    ∃ p' k', initControllers (X := Watched Clockwork)
        (.ofCommandLine (some "irq.force_pic=on timer.hz=100")) platform (.registered ()) start
        = .ok (.pic, p') k'
      ∧ ∃ reported t,
        Kernel.Ticks k' (.ofCommandLine (some "irq.force_pic=on timer.hz=100")) reported t
          ∧ t.hz = reported ∧ ∀ c : Channel, t.TellsTime (c.after k'.events).reload := by
  obtain ⟨p', k', hsetup⟩ :=
    exists_setupWith "irq.force_pic=on timer.hz=100" (by decide +kernel)
  obtain ⟨reported, t, hticks, hknows, htells⟩ := Kernel.knowsRate_iff hsetup
  have hmet : IsMetRate
      (Config.ofCommandLine (some "irq.force_pic=on timer.hz=100")).timerHz.toNat := by
    decide +kernel
  exact ⟨p', k', hsetup, reported, t, hticks, hknows.mpr hmet, htells.mpr hmet⟩

/-- At 1 Hz it does not: the largest divisor gives 18 Hz, and the 18 ticks of a second are taken for
18 seconds. -/
theorem not_knowsRate_one :
    ∃ p' k' reported t, initControllers (X := Watched Clockwork)
        (.ofCommandLine (some "irq.force_pic=on timer.hz=1")) platform (.registered ()) start
        = .ok (.pic, p') k'
      ∧ Kernel.Ticks k' (.ofCommandLine (some "irq.force_pic=on timer.hz=1")) reported t
      ∧ reported = 18 ∧ t.hz = 1 ∧ t.ticksToMs (m := Except Stop) 18 = .ok 18000
      ∧ ∀ c : Channel, ¬t.TellsTime (c.after k'.events).reload := by
  obtain ⟨p', k', hsetup⟩ :=
    exists_setupWith "irq.force_pic=on timer.hz=1" (by decide +kernel)
  obtain ⟨reported, t, hticks⟩ := Kernel.initControllers_ticks hsetup
  have hhz : (Config.ofCommandLine (some "irq.force_pic=on timer.hz=1")).timerHz = 1 := by
    decide +kernel
  have hrate : t.hz = 1 := hticks.wanted.trans hhz
  have hreported : reported.toNat = 18 := by
    rw [hticks.reported, hhz]
    rfl
  have hticked : t.ticksToMs (m := Except Stop) 18 = .ok 18000 := by
    rw [TimerTick.ticksToMs_eq (by rw [hrate]; decide) (by decide), hrate]
    rfl
  refine ⟨p', k', reported, t, hsetup, hticks, UInt32.toNat_inj.mp hreported, hrate, hticked,
    fun c htells => ?_⟩
  obtain ⟨ms, hms, heq⟩ := htells 18 (by decide)
  obtain rfl := Except.ok.inj (hticked.symm.trans hms)
  rw [hticks.channel, hhz] at heq
  exact absurd heq (by decide)

end Clockwork

end Interrupts
