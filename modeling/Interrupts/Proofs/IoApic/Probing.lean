import Interrupts.Proofs.Acpi.RoundTrip
import Interrupts.Proofs.IoApic.Operations
import Interrupts.Sim.Probe

/-!
# Probing an I/O APIC

A probe comes to one of three ends. It fails before the first access; or it reads the version, masks
the pins one after the other and answers the controller; or, when the interrupts of the controller
would not fit a 32-bit number, it stops with an overflow after having masked the pins.

What it answers is the controller that the firmware describes, with the overrides noted that the
firmware lists, and it is `probed` that says so. At the end of this module stands a rig on which all
of this can be tried.
-/

namespace Interrupts

open Sim (WindowEvent)

variable {R σ : Type} [RegisterBus R (EStateM Stop σ)] [Logger (EStateM Stop σ)]

namespace IoApic

variable {w : Wiring R σ} {a : IoApic R} {s : σ} {pin : UInt32}

/-! ## Masking pins -/

/-- The writes that mask a number of pins, one after the other. -/
def maskWrites (count : Nat) (pin : UInt32) : List WindowEvent :=
  (List.range count).flatMap fun i => pinWrites (pin + UInt32.ofNat i) .masked

/-- Masking goes on with the next pin. -/
theorem maskWrites_succ (count : Nat) (pin : UInt32) :
    maskWrites (count + 1) pin = pinWrites pin .masked ++ maskWrites count (pin + 1) := by
  have hnext : ∀ i, pin + UInt32.ofNat (i + 1) = pin + 1 + UInt32.ofNat i := by
    intro i
    rw [UInt32.ofNat_add, UInt32.add_comm (UInt32.ofNat i), ← UInt32.add_assoc]
    rfl
  unfold maskWrites
  rw [List.range_succ_eq_map, List.flatMap_cons, List.flatMap_map]
  simp only [hnext]
  rw [show pin + UInt32.ofNat 0 = pin from UInt32.add_zero pin]

/-- A probe masks the pins in order. -/
theorem maskWrites_zero (n : Nat) :
    maskWrites n 0 = (List.range n).flatMap fun i => pinWrites (UInt32.ofNat i) .masked := by
  unfold maskWrites
  simp only [UInt32.zero_add]

/-- Masking pins one after the other masks just these. -/
theorem entry_after_maskWrites (f : RegisterFile) {count : Nat} {start pin : UInt32}
    (hcount : start.toNat + count ≤ 120) (hpin : pin.toNat < 120) :
    (f.after (maskWrites count start)).entry pin
      = if start.toNat ≤ pin.toNat ∧ pin.toNat < start.toNat + count then .masked
        else f.entry pin := by
  induction count generalizing f start with
  | zero => rw [if_neg (by omega)]; rfl
  | succ count ih =>
    have hnext : (start + 1).toNat = start.toNat + 1 := by
      rw [UInt32.toNat_add, UInt32.toNat_one]
      omega
    rw [maskWrites_succ, RegisterFile.after_append, ih _ (by omega), hnext]
    by_cases heq : pin = start
    · subst heq
      rw [if_neg (by omega), if_pos (by omega), RegisterFile.entry_after_pinWrites _ _ hpin]
    · have hne : pin.toNat ≠ start.toNat := fun h => heq (UInt32.toNat_inj.mp h)
      have hrange : (start.toNat + 1 ≤ pin.toNat ∧ pin.toNat < start.toNat + 1 + count)
          ↔ start.toNat ≤ pin.toNat ∧ pin.toNat < start.toNat + (count + 1) := by omega
      rw [RegisterFile.entry_after_pinWrites_of_ne _ _ (by omega) hpin heq]
      exact if_congr hrange rfl rfl

theorem entry_after_maskWrites_zero (f : RegisterFile) {n : Nat} (hn : n ≤ 120)
    (hpin : pin.toNat < n) : (f.after (maskWrites n 0)).entry pin = .masked := by
  rw [entry_after_maskWrites f (by rw [UInt32.toNat_zero]; omega) (by omega), UInt32.toNat_zero,
    if_pos (by omega)]

/-- **Masking pins.** -/
theorem runs_maskFrom (h : w.ready s) (count : Nat) (pin : UInt32) :
    ∃ s', w.Runs (maskFrom w.handle count pin) s () (maskWrites count pin) s' := by
  induction count generalizing s pin with
  | zero => exact Wiring.runs_pure h ()
  | succ count ih =>
    obtain ⟨s₁, hwrite⟩ := w.runs_writePin h pin .masked
    rw [maskWrites_succ]
    exact hwrite.bind (ih hwrite.ready (pin + 1))

/-! ## Noting overrides -/

/-- The controller with an override noted, if the entry is one of a legacy interrupt. -/
def note (a : IoApic R) (e : Acpi.MadtEntry) : IoApic R :=
  ((a.noteOverride e).map Prod.snd).getD a

/-- Noting overrides makes no access. -/
theorem runs_scanOverrides (h : w.ready s) (es : List Acpi.MadtEntry) (a : IoApic R) :
    ∃ s', w.Runs (scanOverrides es a) s (es.foldl note a) [] s' := by
  induction es generalizing s a with
  | nil => exact Wiring.runs_pure h a
  | cons e es ih =>
    unfold scanOverrides
    rw [List.foldl_cons, note]
    cases hnote : a.noteOverride e with
    | none => exact ih h a
    | some p =>
      obtain ⟨o, a'⟩ := p
      exact Wiring.runs_log_bind h _ _ fun _ h => ih h a'

/-- Only the overrides are noted. -/
theorem foldl_note (es : List Acpi.MadtEntry) (a : IoApic R) :
    es.foldl note a = { a with overrides := (es.foldl note a).overrides } := by
  induction es generalizing a with
  | nil => rfl
  | cons e es ih =>
    have hnote : a.note e = { a with overrides := (a.note e).overrides } := by
      unfold note noteOverride
      split
      next =>
        split <;> rfl
      next => rfl
    rw [List.foldl_cons, ih, hnote]

/-- **The controller that probing answers.** -/
def probed {T : Type} [Acpi.PlatformTables T] (platform : T) (info : Acpi.IoApicInfo)
    (destination : UInt8) (window : R) (version : UInt32) : IoApic R :=
  (Acpi.PlatformTables.entriesOf platform Acpi.MadtEntry.overrideType
    Acpi.MadtEntry.overrideLength).foldl note (described info destination window version)

/-! ## Setting up and probing -/

/-- The accesses of a probe that gets as far as the registers: it reads the version, and masks the
pins. -/
def setUpAccesses (version : UInt32) : List WindowEvent :=
  .read versionRegister version :: maskWrites (pinsOfVersion version).toNat 0

/-- The warning of too many pins is a line of log at most. -/
theorem runs_warnOfExcess (h : w.ready s) (version : UInt32) :
    ∃ s', w.Runs (warnOfExcess version) s () [] s' := by
  unfold warnOfExcess
  dsimp only
  split
  · exact w.runs_log h _ _
  · exact Wiring.runs_pure h ()

section Probe

variable {T : Type} [Acpi.PlatformTables T]

/-- **Setting a controller up** masks its pins, and works out when its interrupt numbers fit into 32
bits. -/
theorem setUp_cases (h : w.ready s) (platform : T) (destination : UInt8) (info : Acpi.IoApicInfo) :
    (∃ s', w.Runs (setUp platform destination info w.handle) s
        (.ok (probed platform info destination w.handle (w.registers s versionRegister)))
        (setUpAccesses (w.registers s versionRegister)) s')
    ∨ ∃ s', setUp (m := EStateM Stop σ) platform destination info w.handle s
      = .error (.fault .addOverflow) s' := by
  obtain ⟨s₁, hversion⟩ := w.runs_readRegister h versionRegister
  obtain ⟨s₂, hwarn⟩ := runs_warnOfExcess hversion.ready (w.registers s versionRegister)
  obtain ⟨s₃, hmask⟩ :=
    runs_maskFrom hwarn.ready (pinsOfVersion (w.registers s versionRegister)).toNat 0
  obtain ⟨s₄, hscan⟩ : ∃ s₄, w.Runs
      (scanOverrides (Acpi.PlatformTables.entriesOf platform Acpi.MadtEntry.overrideType
        Acpi.MadtEntry.overrideLength)
        (described info destination w.handle (w.registers s versionRegister)))
      s₃ (probed platform info destination w.handle (w.registers s versionRegister)) [] s₄ :=
    runs_scanOverrides hmask.ready _ _
  -- All accesses are made by now. What may still stop the probe is the sum of base and pins for the
  -- log.
  generalize probed platform info destination w.handle (w.registers s versionRegister) = a at hscan
  unfold setUp
  by_cases hfits : a.gsiBase.toNat + a.pins.toNat < UInt32.size
  · left
    refine hversion.bind (hwarn.nil_bind (hmask.bind_nil (hscan.nil_bind ?_)))
    rw [addWord32, if_pos hfits, pure_bind]
    exact Wiring.runs_log_bind hscan.ready _ _ fun _ h => Wiring.runs_pure h _
  · right
    refine ⟨s₄, ?_⟩
    rw [bind_of_ok hversion.run, bind_of_ok hwarn.run, bind_of_ok hmask.run]
    dsimp only
    rw [bind_of_ok hscan.run, addWord32, if_neg hfits]
    rfl

variable {platform : T} {destination : UInt8} {s' : σ}
  {map : Acpi.IoApicInfo → EStateM Stop σ (Except IoApicError R)}

/-- A mapping that hands out the window of a wiring, or fails, and uses no register. -/
def Maps (w : Wiring R σ) (map : Acpi.IoApicInfo → EStateM Stop σ (Except IoApicError R)) : Prop :=
  ∀ info s, w.ready s → ∃ r s', w.Runs (map info) s r [] s' ∧ ∀ window, r = .ok window →
    window = w.handle

/-- **A probe fails before the first access, or sets a controller up.** -/
theorem probe_cases (hmap : Maps w map) (h : w.ready s) (platform : T) (destination : UInt8) :
    (∃ e s', w.Runs (probe platform destination map) s (.error e) [] s')
    ∨ (∃ info s', w.Runs (probe platform destination map) s
        (.ok (probed platform info destination w.handle (w.registers s versionRegister)))
        (setUpAccesses (w.registers s versionRegister)) s')
    ∨ ∃ s', probe platform destination map s = .error (.fault .addOverflow) s' := by
  have hnone : ∃ s', w.Runs (do
      log .info "IOAPIC: No controller described by firmware"
      pure (.error .noController : Except IoApicError (IoApic R))) s (.error .noController) [] s' :=
    Wiring.runs_log_bind h _ _ fun _ h => Wiring.runs_pure h _
  unfold probe
  split
  next => exact .inl ⟨_, Wiring.runs_pure h _⟩
  next =>
    split
    next info hsearch =>
      rw [hsearch]
      obtain ⟨r, s₁, hmapped, hwindow⟩ := hmap info s h
      have hsame : w.registers s₁ = w.registers s := hmapped.registers
      cases r with
      | error e => exact .inl ⟨e, hmapped.nil_bind (Wiring.runs_pure hmapped.ready _)⟩
      | ok window =>
        cases hwindow window rfl
        rw [← hsame]
        rcases setUp_cases hmapped.ready platform destination info with hruns | ⟨s', hstops⟩
        · exact .inr (.inl ⟨info, hmapped.nil_bind hruns⟩)
        · refine .inr (.inr ⟨s', ?_⟩)
          show (map info >>= _) s = _
          rw [bind_of_ok hmapped.run]
          exact hstops
    next => exact .inl ⟨_, hnone⟩

/-- The version tells the number of the last pin. -/
theorem toNat_reportedPins (version : UInt32) :
    (reportedPins version).toNat = version.toNat / 65536 % 256 + 1 := by
  have hbyte : ((version >>> 16) &&& 0xff).toNat = version.toNat / 65536 % 256 := by
    rw [UInt32.toNat_and, UInt32.toNat_shiftRight, show (16 : UInt32).toNat % 32 = 16 from rfl,
      Nat.shiftRight_eq_div_pow, show (0xff : UInt32).toNat = 2 ^ 8 - 1 from rfl,
      Nat.and_two_pow_sub_one_eq_mod]
  rw [reportedPins, UInt32.toNat_add, hbyte, UInt32.toNat_one]
  exact Nat.mod_eq_of_lt (by omega)

/-- There is a pin, and no more pins than register numbers can tell apart. -/
theorem pinsOfVersion_bounds (version : UInt32) :
    1 ≤ (pinsOfVersion version).toNat ∧ (pinsOfVersion version).toNat ≤ 120 := by
  have hreported := toNat_reportedPins version
  unfold pinsOfVersion
  split
  next => exact ⟨by decide, by decide⟩
  next hle =>
    have : ¬120 < (reportedPins version).toNat := hle
    omega

section Probed

variable (platform : T) (info : Acpi.IoApicInfo) (destination : UInt8) (window : R)
  (version : UInt32)

/-- The controller that a probe answers is the one that the firmware describes, but for the
overrides. -/
theorem probed_eq :
    probed platform info destination window version
      = { described info destination window version with
          overrides := (probed platform info destination window version).overrides } :=
  foldl_note _ _

theorem pins_probed :
    (probed platform info destination window version).pins = pinsOfVersion version := by
  rw [probed_eq]
  rfl

theorem destination_probed :
    (probed platform info destination window version).destination = destination := by
  rw [probed_eq]
  rfl

/-- A controller that was probed has its window and no more pins than a window has registers for. -/
theorem isWired_probed : (probed platform info destination w.handle version).IsWired w where
  window := by
    rw [probed_eq]
    rfl
  pins := pins_probed platform info destination w.handle version ▸ (pinsOfVersion_bounds version).2

end Probed

/-- **A probe that succeeds** has set a controller of the firmware's up. -/
theorem probe_eq_ok (hmap : Maps w map) (h : w.ready s) {a : IoApic R}
    (hprobe : probe platform destination map s = .ok (.ok a) s') :
    (∃ info, a = probed platform info destination w.handle (w.registers s versionRegister))
      ∧ w.Runs (probe platform destination map) s (.ok a)
        (setUpAccesses (w.registers s versionRegister)) s' := by
  rcases probe_cases hmap h platform destination with
    ⟨e, s₁, hruns⟩ | ⟨info, s₁, hruns⟩ | ⟨s₁, hstops⟩
  · exact nomatch hprobe.symm.trans hruns.run
  · cases hprobe.symm.trans hruns.run
    exact ⟨⟨info, rfl⟩, hruns⟩
  · exact nomatch hprobe.symm.trans hstops

/-- **A probe that fails** makes no access. -/
theorem probe_eq_error (hmap : Maps w map) (h : w.ready s) {e : IoApicError}
    (hprobe : probe platform destination map s = .ok (.error e) s') :
    w.Runs (probe platform destination map) s (.error e) [] s' := by
  rcases probe_cases hmap h platform destination with
    ⟨e, s₁, hruns⟩ | ⟨info, s₁, hruns⟩ | ⟨s₁, hstops⟩
  · cases hprobe.symm.trans hruns.run
    exact hruns
  · exact nomatch hprobe.symm.trans hruns.run
  · exact nomatch hprobe.symm.trans hstops

end Probe

end IoApic

/-! ## A rig -/

namespace Sim

namespace SelectWindow

/-- A device that answers still does so after a read, and after a write. -/
theorem floating_read (offset : UInt64) (d : SelectWindow) :
    (d.read offset).2.floating = d.floating := by
  unfold read
  by_cases h : offset = 0x10
  · rw [if_pos h]
  · rw [if_neg h]

theorem floating_write (offset : UInt64) (v : UInt32) (d : SelectWindow) :
    (d.write offset v).floating = d.floating := by
  unfold write
  split <;> rfl

end SelectWindow

namespace ProbeRig

/-- **How a rig has its window**: as long as a device answers. -/
def wiring : Wiring ProbeWindow (Bench ProbeRig) where
  handle := {}
  window b := b.device.window
  ready b := b.device.window.floating = false
  answers h := h
  read offset h := ⟨_, (SelectWindow.floating_read offset _).trans h, rfl, rfl⟩
  write offset v h := ⟨_, (SelectWindow.floating_write offset v _).trans h, rfl, rfl⟩
  line := by
    intro b level text h
    exact ⟨{ b with lines := b.lines.push { level, text } }, h, rfl, rfl⟩

/-- **A rig hands out its window**, or refuses to. -/
theorem maps_map : IoApic.Maps wiring map := by
  intro info b h
  have hmap : ∃ r, map info b
      = .ok r { b with device := { b.device with mapped := some info } } := by
    obtain ⟨device, lines⟩ := b
    obtain ⟨window, refusal, mapped, ran, cell⟩ := device
    cases refusal <;> exact ⟨_, rfl⟩
  obtain ⟨r, hrun⟩ := hmap
  exact ⟨r, _, ⟨hrun, h, (List.append_nil _).symm, rfl⟩, fun _ _ => rfl⟩

/-- A table with one I/O APIC, which serves the interrupts from 16 on. Interrupt 0 is sent to it
twice; interrupt 9 is sent to it as well, but also elsewhere on a bus that is not the legacy one. -/
def reroutedImage : Acpi.MadtImage where
  maker := List.replicate 28 0
  maker_length := Acpi.MadtImage.length_blank
  lapicAddress := 0xFEE00000
  flags := 1
  entries :=
    [ .interruptOverride { bus := 0, irq := 0, gsi := 19, flags := 0 } [],
      .ioApic { id := 7, address := 0xFEC00000, gsiBase := 16 } 0 [],
      .interruptOverride { bus := 0, irq := 9, gsi := 17, flags := 0xF } [0xAA],
      .other Acpi.MadtEntry.overrideType [0, 9, 16] (by decide),
      .interruptOverride { bus := 1, irq := 9, gsi := 16, flags := 0 } [],
      .interruptOverride { bus := 0, irq := 0, gsi := 18, flags := 0xD } [] ]
  entry_fits := by decide
  fits := by decide

/-- The platform of this table. -/
def rerouted : Acpi.MadtPlatform where
  madt := some ⟨reroutedImage.bytes⟩

/-- A controller of four pins, some of which are still in use. -/
def inUse : Bench ProbeRig where
  device :=
    { window := ((({} : SelectWindow).preset 0x01 0x00030011).preset 0x12 0x31).preset 0x14 0xA0 }

/-- What is to be seen of the controller, once it is probed. -/
def probeView {α : Type} (f : IoApic ProbeWindow → α) : Option α :=
  match IoApic.probe (m := BenchM ProbeRig) rerouted 5 map inUse with
  | .ok (.ok a) _ => some (f a)
  | _ => none

/-- What is to be seen of the answer of a probe is so of the controller that it answers. -/
theorem exists_probe {α : Type} {f : IoApic ProbeWindow → α} {r : α} (h : probeView f = some r) :
    ∃ a s', IoApic.probe (m := BenchM ProbeRig) rerouted 5 map inUse = .ok (.ok a) s'
      ∧ f a = r := by
  unfold probeView at h
  split at h
  next a s' hprobe => exact ⟨a, s', hprobe, Option.some.inj h⟩
  next => exact nomatch h

end ProbeRig

end Sim

end Interrupts
