import Interrupts.Proofs.Kernel.Registers

/-!
# What the drivers do to their devices

For each operation that setting up the controllers consists of, this module lists the deeds of a run
that returned. The 8259 pair is programmed and gets its masks; the registers of the Local APIC are
stored one by one; a probe of an I/O APIC makes the accesses that `setUpAccesses` lists, or none.

Bytes for the pair and stores to registers are deeds, and reads are not. What a read answers is up
to the device, and where the code goes on with the answer, as with the masks of the pair or the
version of an I/O APIC, it stands in the list as a value that is not known. The lemmas go through an
operation one access at a time, and through the loops by induction on what is left of them.
-/

namespace Interrupts

open Boot
open Sim (WindowEvent)

variable {X : Surroundings} [Behaviour X] {k k' : Kernel (Watched X)} {u : Unit}

namespace Kernel

/-! ## The 8259 pair -/

section Pic

variable {p p' : Pic MachinePorts} {master slave : UInt8}

/-- A byte to one of the chips, and time to take it in. -/
theorem did_command {port : UInt16} {value : UInt8}
    (h : p.command (m := Boot (Watched X)) port value k = .ok u k')
    (hport : HardwareEvent.isDeed (.out port value) = true) : Did k [.out port value] k' := by
  obtain ⟨_, k₁, hwrite, hpause⟩ := bind_eq_ok.mp h
  exact (did_tell hwrite hport).then_nothing (did_write8_elsewhere hpause (by rfl))

/-- **The pair is programmed by a fixed sequence of bytes**, with only the two bases and the two
masks to be filled in. The masks are what the chips answered before, and the pair remembers the
bases. -/
theorem did_remap (h : p.remap (m := Boot (Watched X)) master slave k = .ok p' k') :
    ∃ masterMask slaveMask,
      Did k (Pic.programming master slave masterMask slaveMask) k'
        ∧ p' = { p with master, slave } := by
  obtain ⟨masterMask, k₁, hread, h⟩ := bind_eq_ok.mp h
  obtain ⟨slaveMask, k₂, hread', h⟩ := bind_eq_ok.mp h
  obtain ⟨_, k₃, hinit, h⟩ := bind_eq_ok.mp h
  obtain ⟨_, k₄, hinit', h⟩ := bind_eq_ok.mp h
  obtain ⟨_, k₅, hbase, h⟩ := bind_eq_ok.mp h
  obtain ⟨_, k₆, hbase', h⟩ := bind_eq_ok.mp h
  obtain ⟨_, k₇, hwiring, h⟩ := bind_eq_ok.mp h
  obtain ⟨_, k₈, hwiring', h⟩ := bind_eq_ok.mp h
  obtain ⟨_, k₉, hmode, h⟩ := bind_eq_ok.mp h
  obtain ⟨_, k₁₀, hmode', h⟩ := bind_eq_ok.mp h
  obtain ⟨_, k₁₁, hmask, h⟩ := bind_eq_ok.mp h
  obtain ⟨_, k₁₂, hmask', h⟩ := bind_eq_ok.mp h
  obtain ⟨_, k₁₃, hlog, h⟩ := bind_eq_ok.mp h
  obtain ⟨rfl, rfl⟩ := pure_eq_ok.mp h
  refine ⟨masterMask, slaveMask, ?_, rfl⟩
  -- Two bytes at a time, one for each chip: the four initialisation words, and then the masks of
  -- before.
  have hreads := (did_read8 hread).trans (did_read8 hread')
  have hinits := (did_command hinit (by rfl)).trans (did_command hinit' (by rfl))
  have hbases := (did_command hbase (by rfl)).trans (did_command hbase' (by rfl))
  have hwirings := (did_command hwiring (by rfl)).trans (did_command hwiring' (by rfl))
  have hmodes := (did_command hmode (by rfl)).trans (did_command hmode' (by rfl))
  have hmasks := (did_tell hmask (by rfl)).trans (did_tell hmask' (by rfl))
  exact (((((hreads.trans hinits).trans hbases).trans hwirings).trans hmodes).trans
    hmasks).then_nothing (did_log hlog)

/-- A mask is told to both chips. -/
theorem did_writeMasks {mask : UInt8}
    (h : p.writeMasks (m := Boot (Watched X)) mask k = .ok u k') :
    Did k (Pic.masking mask) k' := by
  obtain ⟨_, k₁, hmaster, hslave⟩ := bind_eq_ok.mp h
  exact (did_tell hmaster (by rfl)).trans (did_tell hslave (by rfl))

/-- **Enabling the pair** programs it and unmasks its lines. -/
theorem did_enablePic (h : p.enable (m := Boot (Watched X)) k = .ok p' k') :
    ∃ masterMask slaveMask,
      Did k (Pic.programming p.master p.slave masterMask slaveMask ++ Pic.masking 0x00) k'
        ∧ p' = p := by
  obtain ⟨_, k₁, hremap, h⟩ := bind_eq_ok.mp h
  obtain ⟨_, k₂, hmasks, h⟩ := bind_eq_ok.mp h
  obtain ⟨rfl, rfl⟩ := pure_eq_ok.mp h
  obtain ⟨masterMask, slaveMask, hdid, rfl⟩ := did_remap hremap
  exact ⟨masterMask, slaveMask, hdid.trans (did_writeMasks hmasks), rfl⟩

/-- **Disabling the pair** programs it and masks its lines. -/
theorem did_disablePic (h : p.disable (m := Boot (Watched X)) k = .ok p' k') :
    ∃ masterMask slaveMask,
      Did k (Pic.programming p.master p.slave masterMask slaveMask ++ Pic.masking 0xff) k'
        ∧ p' = p := by
  obtain ⟨_, k₁, hremap, h⟩ := bind_eq_ok.mp h
  obtain ⟨_, k₂, hmasks, h⟩ := bind_eq_ok.mp h
  obtain ⟨_, k₃, hlog, h⟩ := bind_eq_ok.mp h
  obtain ⟨rfl, rfl⟩ := pure_eq_ok.mp h
  obtain ⟨masterMask, slaveMask, hdid, rfl⟩ := did_remap hremap
  exact ⟨masterMask, slaveMask,
    (hdid.trans (did_writeMasks hmasks)).then_nothing (did_log hlog), rfl⟩

end Pic

end Kernel

/-! ## The Local APIC -/

/-- The stores of these values in registers of the Local APIC. -/
def LocalApic.stores (a : LocalApic Window) (values : List (UInt64 × UInt32)) :
    List HardwareEvent :=
  values.map fun v => .store (a.window.virtBase + v.1) v.2

namespace LocalApic

/-- What is stored to enable a Local APIC. -/
def enabling (destination spurious : UInt32) : List (UInt64 × UInt32) :=
  [(taskPriority, 0), (destinationFormat, 0xffffffff), (logicalDestination, destination),
    (spuriousRegister, spurious), (timerEntry, maskedEntry), (counterEntry, maskedEntry),
    (lint0Entry, maskedEntry), (lint1Entry, maskedEntry), (errorEntry, maskedEntry),
    (errorStatusRegister, 0), (errorStatusRegister, 0)]

/-- What is stored to let the 8259 pair through, and NMIs. -/
def routing : List (UInt64 × UInt32) :=
  [(lint0Entry, extIntEntry), (lint1Entry, nmiEntry)]

/-- The registers of the timer that are written. -/
def timerRegisters : List UInt64 :=
  [timerEntry, timerDivide, timerInitial]

theorem lt_windowSize_of_timer {offset : UInt64} (h : offset ∈ timerRegisters) :
    offset < windowSize := by
  simp only [timerRegisters, List.mem_cons, List.not_mem_nil, or_false] at h
  rcases h with rfl | rfl | rfl <;> decide

theorem ne_lint0_of_timer {offset : UInt64} (h : offset ∈ timerRegisters) :
    offset ≠ lint0Entry := by
  simp only [timerRegisters, List.mem_cons, List.not_mem_nil, or_false] at h
  rcases h with rfl | rfl | rfl <;> decide

variable (a : LocalApic Window) {values values' : List (UInt64 × UInt32)}

theorem stores_append : a.stores (values ++ values') = a.stores values ++ a.stores values' :=
  List.map_append

/-- What was stored last in a register of the Local APIC. -/
theorem lastStored_stores (offset : UInt64) :
    lastStored (a.window.virtBase + offset) (a.stores values)
      = (values.filterMap fun v => if v.1 = offset then some v.2 else none).getLast? := by
  unfold lastStored stores
  rw [List.filterMap_map]
  refine congrArg List.getLast? (List.filterMap_congr fun v _ => ?_)
  exact if_congr (UInt64.add_right_inj _) rfl rfl

theorem lastStored_stores_of_ne {offset : UInt64} (h : ∀ v ∈ values, v.1 ≠ offset) :
    lastStored (a.window.virtBase + offset) (a.stores values) = none := by
  rw [lastStored_stores, List.getLast?_eq_none_iff, List.filterMap_eq_nil_iff]
  exact fun v hv => if_neg (h v hv)

theorem storesOnly_stores (values : List (UInt64 × UInt32)) : StoresOnly (a.stores values) := by
  intro e he
  obtain ⟨v, -, rfl⟩ := List.mem_map.mp he
  exact ⟨_, _, rfl⟩

end LocalApic

namespace Kernel

section LocalApic

variable {a : LocalApic Window}

theorem did_write {offset : UInt64} {value : UInt32}
    (h : a.write (m := Boot (Watched X)) offset value k = .ok u k') :
    Did k (a.stores [(offset, value)]) k' :=
  did_write32 h

/-- **Enabling a Local APIC** masks all its local sources. -/
theorem did_enableApic {cpu : Nat} (h : a.enable (m := Boot (Watched X)) cpu k = .ok u k') :
    ∃ destination spurious, Did k (a.stores (LocalApic.enabling destination spurious)) k' := by
  obtain ⟨_, k₁, hpriority, h⟩ := bind_eq_ok.mp h
  obtain ⟨_, k₂, hformat, h⟩ := bind_eq_ok.mp h
  obtain ⟨_, k₃, hdestination, h⟩ := bind_eq_ok.mp h
  obtain ⟨old, k₄, hread, h⟩ := bind_eq_ok.mp h
  obtain ⟨_, k₅, hspurious, h⟩ := bind_eq_ok.mp h
  obtain ⟨_, k₆, htimer, h⟩ := bind_eq_ok.mp h
  obtain ⟨_, k₇, hcounter, h⟩ := bind_eq_ok.mp h
  obtain ⟨_, k₈, hlint0, h⟩ := bind_eq_ok.mp h
  obtain ⟨_, k₉, hlint1, h⟩ := bind_eq_ok.mp h
  obtain ⟨_, k₁₀, herror, h⟩ := bind_eq_ok.mp h
  obtain ⟨_, k₁₁, hstatus, h⟩ := bind_eq_ok.mp h
  obtain ⟨_, k₁₂, hstatus', h⟩ := bind_eq_ok.mp h
  obtain ⟨_, k₁₃, hid, h⟩ := bind_eq_ok.mp h
  obtain ⟨_, k₁₄, hversion, hlog⟩ := bind_eq_ok.mp h
  obtain ⟨_, _, hidRead, hpure⟩ := bind_eq_ok.mp hid
  obtain ⟨-, rfl⟩ := pure_eq_ok.mp hpure
  obtain ⟨_, _, hversionRead, hpure⟩ := bind_eq_ok.mp hversion
  obtain ⟨-, rfl⟩ := pure_eq_ok.mp hpure
  -- First the processor's priority and logical address, then the switch, and then the local
  -- sources.
  have hlogical := ((did_write hpriority).trans (did_write hformat)).trans (did_write hdestination)
  have hswitched := (hlogical.then_nothing (did_read32 hread)).trans (did_write hspurious)
  have hmasked := ((((hswitched.trans (did_write htimer)).trans (did_write hcounter)).trans
    (did_write hlint0)).trans (did_write hlint1)).trans (did_write herror)
  have hcleared := (hmasked.trans (did_write hstatus)).trans (did_write hstatus')
  exact ⟨_, _, ((hcleared.then_nothing (did_read32 hidRead)).then_nothing
    (did_read32 hversionRead)).then_nothing (did_log hlog)⟩

/-- **Letting the 8259 pair through** opens the two local sources for interrupts and NMIs. -/
theorem did_routeLegacyPic (h : a.routeLegacyPic (m := Boot (Watched X)) k = .ok u k') :
    Did k (a.stores LocalApic.routing) k' := by
  obtain ⟨_, k₁, hlint0, h⟩ := bind_eq_ok.mp h
  obtain ⟨_, k₂, hlint1, hlog⟩ := bind_eq_ok.mp h
  exact ((did_write hlint0).trans (did_write hlint1)).then_nothing (did_log hlog)

/-! ### The timer -/

/-- **What was done to the timer**: stores to its registers, and nothing else. -/
def DidTimer (a : LocalApic Window) (k k' : Kernel (Watched X)) : Prop :=
  ∃ values, Did k (a.stores values) k' ∧ ∀ v ∈ values, v.1 ∈ LocalApic.timerRegisters

omit [Behaviour X] in
theorem DidTimer.of_nothing (h : Did k [] k') : DidTimer a k k' :=
  ⟨[], h, fun _ hv => absurd hv List.not_mem_nil⟩

omit [Behaviour X] in
/-- What was done to the timer first, and then. -/
theorem DidTimer.trans {k'' : Kernel (Watched X)} (h : DidTimer a k k') (h' : DidTimer a k' k'') :
    DidTimer a k k'' := by
  obtain ⟨values, hdid, hregisters⟩ := h
  obtain ⟨values', hdid', hregisters'⟩ := h'
  refine ⟨values ++ values', ?_, fun v hv => ?_⟩
  · rw [LocalApic.stores_append]
    exact hdid.trans hdid'
  · exact (List.mem_append.mp hv).elim (hregisters v) (hregisters' v)

omit [Behaviour X] in
theorem DidTimer.localApic (h : DidTimer a k k') : k'.localApic = k.localApic := by
  obtain ⟨values, hdid, -⟩ := h
  exact hdid.localApic

/-- A store to one of the timer's registers. -/
theorem didTimer_write {offset : UInt64} {value : UInt32}
    (h : a.write (m := Boot (Watched X)) offset value k = .ok u k')
    (hoffset : offset ∈ LocalApic.timerRegisters) :
    DidTimer a k k' :=
  ⟨[(offset, value)], did_write h, fun v hv => by rw [List.mem_singleton.mp hv]; exact hoffset⟩

/-- A window of the measurement starts the timer, waits, and stops it. -/
theorem didTimer_measureWindow {elapsed : UInt32}
    (h : a.measureWindow (m := Boot (Watched X)) delayMs k = .ok elapsed k') :
    DidTimer a k k' := by
  -- the delay between starting and reading only latches the interval timer, so it is no deed
  obtain ⟨_, k₁, hentry, h⟩ := bind_eq_ok.mp h
  obtain ⟨_, k₂, hdivide, h⟩ := bind_eq_ok.mp h
  obtain ⟨_, k₃, hstart, h⟩ := bind_eq_ok.mp h
  obtain ⟨_, k₄, hdelay, h⟩ := bind_eq_ok.mp h
  obtain ⟨left, k₅, hread, h⟩ := bind_eq_ok.mp h
  obtain ⟨_, k₆, hstop, h⟩ := bind_eq_ok.mp h
  obtain ⟨-, rfl⟩ := pure_eq_ok.mp h
  have hstarted := ((didTimer_write hentry (by decide)).trans
    (didTimer_write hdivide (by decide))).trans (didTimer_write hstart (by decide))
  exact ((hstarted.trans (.of_nothing (did_delayMs hdelay))).trans
    (.of_nothing (did_read32 hread))).trans (didTimer_write hstop (by decide))

/-- So do any number of them. -/
theorem didTimer_measureTotal {left : Nat} {total total' : UInt64}
    (h : a.measureTotal (m := Boot (Watched X)) delayMs left total k = .ok total' k') :
    DidTimer a k k' := by
  induction left generalizing k total with
  | zero =>
    obtain ⟨-, rfl⟩ := pure_eq_ok.mp h
    exact .of_nothing (.refl k)
  | succ left ih =>
    obtain ⟨elapsed, k₁, hwindow, h⟩ := bind_eq_ok.mp h
    exact (didTimer_measureWindow hwindow).trans (ih h)

/-- Measuring the timer touches the timer alone, whatever comes of it. -/
theorem didTimer_measure {rate : Except TimerError UInt64}
    (h : a.measure (m := Boot (Watched X)) delayMs k = .ok rate k') : DidTimer a k k' := by
  obtain ⟨total, k₁, htotal, h⟩ := bind_eq_ok.mp h
  obtain ⟨-, rfl⟩ := pure_eq_ok.mp h
  exact didTimer_measureTotal htotal

/-- Arming it does, too, and a refusal comes before any store. -/
theorem didTimer_programPeriodic {vector : UInt8} {hz : UInt32} {rate : UInt64}
    {count : Except TimerError UInt32}
    (h : a.programPeriodic (m := Boot (Watched X)) vector hz rate k = .ok count k') :
    DidTimer a k k' := by
  unfold LocalApic.programPeriodic at h
  cases hcount : LocalApic.countFor hz rate with
  | error e =>
    rw [hcount] at h
    obtain ⟨-, rfl⟩ := pure_eq_ok.mp h
    exact .of_nothing (.refl k)
  | ok initial =>
    rw [hcount] at h
    obtain ⟨_, k₁, hdivide, h⟩ := bind_eq_ok.mp h
    obtain ⟨_, k₂, hentry, h⟩ := bind_eq_ok.mp h
    obtain ⟨_, k₃, hstart, h⟩ := bind_eq_ok.mp h
    obtain ⟨-, rfl⟩ := pure_eq_ok.mp h
    exact ((didTimer_write hdivide (by decide)).trans (didTimer_write hentry (by decide))).trans
      (didTimer_write hstart (by decide))

/-- A warning, before going on. -/
theorem warned_eq_ok {α : Type} {p : Prop} [Decidable p] {level : Level} {text : String}
    {rest : Unit → Boot (Watched X) α} {r : α}
    (h : (if p then log level text >>= rest else rest ()) k = .ok r k') :
    ∃ k₁, Did k [] k₁ ∧ rest () k₁ = .ok r k' := by
  split at h
  · obtain ⟨_, k₁, hlog, h⟩ := bind_eq_ok.mp h
    exact ⟨k₁, did_log hlog, h⟩
  · exact ⟨k, .refl k, h⟩

/-- **Calibrating the timer** only does what measuring it does; the rate is kept in the kernel. -/
theorem didTimer_calibrate {a : LocalApic Window} {rate : Except TimerError UInt64}
    (hcell : k.localApic = .ready a) (h : calibrateTimer (X := Watched X) k = .ok rate k') :
    DidTimer a k k' := by
  obtain ⟨_, _, ⟨⟩, h⟩ := bind_eq_ok.mp h
  rw [hcell] at h
  obtain ⟨measured, k₁, hmeasure, h⟩ := bind_eq_ok.mp h
  have hmeasured := didTimer_measure hmeasure
  cases measured with
  | error e =>
    obtain ⟨-, rfl⟩ := pure_eq_ok.mp h
    exact hmeasured
  | ok hz =>
    obtain ⟨k₂, hwarned, h⟩ := warned_eq_ok h
    obtain ⟨_, _, ⟨⟩, h⟩ := bind_eq_ok.mp h
    obtain ⟨_, k₃, hlog, h⟩ := bind_eq_ok.mp h
    obtain ⟨-, rfl⟩ := pure_eq_ok.mp h
    -- the rate is kept in the kernel, where no device sees it
    have hkept : Did k₂ [] { k₂ with timerRate := hz } :=
      ⟨.refl k₂, rfl⟩
    exact hmeasured.trans (.of_nothing ((hwarned.trans hkept).trans (did_log hlog)))

/-- **Starting the tick** only does what arming the timer does. -/
theorem didTimer_startPeriodic {a : LocalApic Window} {vector : UInt8} {hz : UInt32}
    {reply : Except TimerError Unit} (hcell : k.localApic = .ready a)
    (h : startPeriodic (X := Watched X) vector hz k = .ok reply k') : DidTimer a k k' := by
  obtain ⟨_, _, ⟨⟩, h⟩ := bind_eq_ok.mp h
  rw [hcell] at h
  obtain ⟨_, _, ⟨⟩, h⟩ := bind_eq_ok.mp h
  obtain ⟨count, k₁, hprogram, h⟩ := bind_eq_ok.mp h
  have hprogrammed := didTimer_programPeriodic hprogram
  cases count with
  | error e =>
    obtain ⟨-, rfl⟩ := pure_eq_ok.mp h
    exact hprogrammed
  | ok count =>
    obtain ⟨_, k₂, hlog, h⟩ := bind_eq_ok.mp h
    obtain ⟨-, rfl⟩ := pure_eq_ok.mp h
    exact hprogrammed.trans (.of_nothing (did_log hlog))

/-- What came of it is only logged. -/
theorem did_logTimer {r : Except TimerError Unit}
    (h : logTimer (X := Watched X) r k = .ok u k') : Did k [] k' := by
  cases r with
  | ok _ =>
    obtain ⟨-, rfl⟩ := pure_eq_ok.mp h
    exact .refl k
  | error e => exact did_log h

/-- **Starting the tick** of the Local APIC concerns its timer only. -/
theorem didTimer_startApicTick {a : LocalApic Window} {irqBase : UInt8} {hz : UInt32}
    (hcell : k.localApic = .ready a) (h : startApicTick (X := Watched X) irqBase hz k = .ok u k') :
    DidTimer a k k' := by
  obtain ⟨rate, k₁, hcalibrate, h⟩ := bind_eq_ok.mp h
  have hcalibrated := didTimer_calibrate hcell hcalibrate
  cases rate with
  | error e => exact hcalibrated.trans (.of_nothing (did_logTimer h))
  | ok rate =>
    obtain ⟨reply, k₂, hstart, hlog⟩ := bind_eq_ok.mp h
    have hstarted := didTimer_startPeriodic (hcalibrated.localApic.trans hcell) hstart
    exact (hcalibrated.trans hstarted).trans (.of_nothing (did_logTimer hlog))

end LocalApic

/-! ## The I/O APIC -/

section IoApic

open IoApic

variable {w : Window}

/-- **What was done through the window**: these accesses to the registers behind it. -/
abbrev DidAccess (w : Window) (k : Kernel (Watched X)) (es : List WindowEvent)
    (k' : Kernel (Watched X)) : Prop :=
  Did k (es.flatMap (accessStores w)) k'

omit [Behaviour X] in
/-- Accesses add up in order. -/
theorem DidAccess.trans {k'' : Kernel (Watched X)} {es es' : List WindowEvent}
    (h : DidAccess w k es k') (h' : DidAccess w k' es' k'') : DidAccess w k (es ++ es') k'' := by
  unfold DidAccess
  rw [List.flatMap_append]
  exact Did.trans h h'

/-- A register behind the window is selected, and then read or written. -/
theorem did_readRegister {r : UInt8} {value : UInt32}
    (h : readRegister (m := Boot (Watched X)) w r k = .ok value k') :
    DidAccess w k [.read r value] k' := by
  obtain ⟨_, k₁, hselect, hread⟩ := bind_eq_ok.mp h
  exact (did_write32 hselect).then_nothing (did_read32 hread)

theorem did_writeRegister {r : UInt8} {value : UInt32}
    (h : writeRegister (m := Boot (Watched X)) w r value k = .ok u k') :
    DidAccess w k [.write r value] k' := by
  obtain ⟨_, k₁, hselect, hwrite⟩ := bind_eq_ok.mp h
  exact (did_write32 hselect).trans (did_write32 hwrite)

/-- An entry is written in its two halves. -/
theorem did_writePin {pin : UInt32} {e : Redirection}
    (h : writePin (m := Boot (Watched X)) w pin e k = .ok u k') :
    DidAccess w k (pinWrites pin e) k' := by
  obtain ⟨_, k₁, hhigh, hlow⟩ := bind_eq_ok.mp h
  exact (did_writeRegister hhigh).trans (did_writeRegister hlow)

/-- Pins are masked one by one. -/
theorem did_maskFrom {count : Nat} {pin : UInt32}
    (h : maskFrom (m := Boot (Watched X)) w count pin k = .ok u k') :
    DidAccess w k (maskWrites count pin) k' := by
  induction count generalizing k pin with
  | zero =>
    obtain ⟨-, rfl⟩ := pure_eq_ok.mp h
    exact .refl k
  | succ count ih =>
    obtain ⟨_, k₁, hfirst, hrest⟩ := bind_eq_ok.mp h
    rw [maskWrites_succ]
    exact (did_writePin hfirst).trans (ih hrest)

/-- Scanning the overrides notes them and logs them, and does nothing else. -/
theorem did_scanOverrides {es : List Acpi.MadtEntry} {a a' : IoApic Window}
    (h : scanOverrides (m := Boot (Watched X)) es a k = .ok a' k') :
    Did k [] k' ∧ a' = es.foldl note a := by
  induction es generalizing a k with
  | nil =>
    obtain ⟨rfl, rfl⟩ := pure_eq_ok.mp h
    exact ⟨.refl k, rfl⟩
  | cons e es ih =>
    unfold scanOverrides at h
    rw [List.foldl_cons, note]
    cases hnote : a.noteOverride e with
    | none =>
      rw [hnote] at h
      exact ih h
    | some noted =>
      obtain ⟨o, a₁⟩ := noted
      rw [hnote] at h
      obtain ⟨_, k₁, hlog, h⟩ := bind_eq_ok.mp h
      obtain ⟨hdid, ha'⟩ := ih h
      exact ⟨(did_log hlog).trans hdid, ha'⟩

section Probe

variable {T : Type} [Acpi.PlatformTables T] {platform : T} {destination : UInt8}
  {reply : Except IoApicError (IoApic Window)}

/-- **Setting up an I/O APIC** reads the version and masks as many pins as it describes; the rest is
log lines and a sum that must not overflow. -/
theorem did_setUp {info : Acpi.IoApicInfo}
    (h : setUp (m := Boot (Watched X)) platform destination info w k = .ok reply k') :
    ∃ version, reply = .ok (probed platform info destination w version)
      ∧ DidAccess w k (setUpAccesses version) k' := by
  obtain ⟨version, k₁, hversion, h⟩ := bind_eq_ok.mp h
  obtain ⟨_, k₂, hwarn, h⟩ := bind_eq_ok.mp h
  obtain ⟨_, k₃, hmask, h⟩ := bind_eq_ok.mp h
  obtain ⟨a, k₄, hscan, h⟩ := bind_eq_ok.mp h
  obtain ⟨past, k₅, hpast, h⟩ := bind_eq_ok.mp h
  obtain ⟨_, k₆, hlog, h⟩ := bind_eq_ok.mp h
  obtain ⟨rfl, rfl⟩ := pure_eq_ok.mp h
  obtain ⟨hscanned, rfl⟩ := did_scanOverrides hscan
  refine ⟨version, rfl, ?_⟩
  -- Neither the warning of too many pins nor the last sum is a deed.
  have hwarned : Did k₁ [] k₂ := by
    unfold warnOfExcess at hwarn
    split at hwarn
    · exact did_log hwarn
    · obtain ⟨-, rfl⟩ := pure_eq_ok.mp hwarn
      exact .refl k₁
  have hsummed : Did k₄ [] k₅ := by
    unfold addWord32 at hpast
    split at hpast
    · obtain ⟨-, rfl⟩ := pure_eq_ok.mp hpast
      exact .refl k₄
    · exact nomatch hpast
  have hmasked := (did_readRegister hversion).trans (hwarned.nothing_then (did_maskFrom hmask))
  exact ((Did.then_nothing hmasked hscanned).then_nothing hsummed).then_nothing (did_log hlog)

/-- **A probe** does nothing, or sets a controller up behind the window that was mapped. -/
theorem did_probe {map : Acpi.IoApicInfo → Boot (Watched X) (Except IoApicError Window)}
    (hmap : ∀ {info k r k'}, map info k = .ok r k' → Did k [] k')
    (h : probe platform destination map k = .ok reply k') :
    (∃ e, reply = .error e ∧ Did k [] k')
      ∨ ∃ info w version, reply = .ok (probed platform info destination w version)
        ∧ DidAccess w k (setUpAccesses version) k' := by
  -- Without an entry, or with one of another kind, the probe ends in a line of log.
  have hundescribed {reply : Except IoApicError (IoApic Window)}
      (h : (do
        log .info "IOAPIC: No controller described by firmware"
        pure (.error .noController) : Boot (Watched X) _) k = .ok reply k') :
      ∃ e, reply = .error e ∧ Did k [] k' := by
    obtain ⟨_, k₁, hlog, h⟩ := bind_eq_ok.mp h
    obtain ⟨rfl, rfl⟩ := pure_eq_ok.mp h
    exact ⟨_, rfl, did_log hlog⟩
  unfold probe at h
  split at h
  · obtain ⟨rfl, rfl⟩ := pure_eq_ok.mp h
    exact .inl ⟨_, rfl, .refl k⟩
  cases hsearch : (Acpi.PlatformTables.search platform Acpi.MadtEntry.ioApicType
    Acpi.MadtEntry.ioApicLength .start).1 with
  | none =>
    rw [hsearch] at h
    exact .inl (hundescribed h)
  | some entry =>
    rw [hsearch] at h
    cases entry with
    | ioApic info =>
      obtain ⟨r, k₁, hmapped, h⟩ := bind_eq_ok.mp h
      cases r with
      | error e =>
        obtain ⟨rfl, rfl⟩ := pure_eq_ok.mp h
        exact .inl ⟨e, rfl, hmap hmapped⟩
      | ok w =>
        obtain ⟨version, rfl, hdid⟩ := did_setUp h
        exact .inr ⟨info, w, version, rfl, (hmap hmapped).nothing_then hdid⟩
    | localApic _ => exact .inl (hundescribed h)
    | interruptOverride _ => exact .inl (hundescribed h)
    | unknown _ => exact .inl (hundescribed h)

end Probe

end IoApic

end Kernel

end Interrupts
