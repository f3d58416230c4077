import Interrupts.Proofs.IoApic.Window

/-!
# What the operations of an I/O APIC do

One lemma for each operation of the driver says what it answers and which registers it uses on the
way; an operation on an interrupt that the controller does not serve uses none, and leaves the
state as it is.
-/

namespace Interrupts

open Sim (WindowEvent)

variable {R σ : Type} [RegisterBus R (EStateM Stop σ)] [Logger (EStateM Stop σ)]

namespace IoApic

variable {w : Wiring R σ} {a : IoApic R} {s : σ} {pin gsi : UInt32} {irq vector : UInt8}

/-! ## Pins -/

/-- **The pins of an interrupt number** are those from the first interrupt of the controller on. -/
theorem pinOf_eq_ok :
    a.pinOf gsi = .ok pin ↔ a.gsiBase.toNat ≤ gsi.toNat ∧ pin.toNat < a.pins.toNat
      ∧ pin.toNat = gsi.toNat - a.gsiBase.toNat := by
  have hsub (h : a.gsiBase.toNat ≤ gsi.toNat) :
      (gsi - a.gsiBase).toNat = gsi.toNat - a.gsiBase.toNat := UInt32.toNat_sub_of_le _ _ h
  unfold pinOf
  constructor
  · intro h
    split at h
    next hserved =>
      cases h
      have hle : a.gsiBase.toNat ≤ gsi.toNat := hserved.1
      exact ⟨hle, hserved.2, hsub hle⟩
    next => exact nomatch h
  · rintro ⟨hle, hlt, hpin⟩
    have heq : gsi - a.gsiBase = pin := UInt32.toNat_inj.mp ((hsub hle).trans hpin.symm)
    rw [heq, if_pos ⟨hle, hlt⟩]

/-- An interrupt that is not served is named in the refusal. -/
theorem pinOf_eq_error {e : IoApicError} :
    a.pinOf gsi = .error e ↔ e = .gsiOutOfRange gsi
      ∧ ¬(a.gsiBase.toNat ≤ gsi.toNat ∧ gsi.toNat < a.gsiBase.toNat + a.pins.toNat) := by
  have hserved : (a.gsiBase ≤ gsi ∧ gsi - a.gsiBase < a.pins)
      ↔ a.gsiBase.toNat ≤ gsi.toNat ∧ gsi.toNat < a.gsiBase.toNat + a.pins.toNat := by
    refine and_congr_right fun hle => ?_
    have hle' : a.gsiBase.toNat ≤ gsi.toNat := hle
    rw [UInt32.lt_iff_toNat_lt, UInt32.toNat_sub_of_le _ _ hle]
    omega
  unfold pinOf
  constructor
  · intro h
    split at h
    next => exact nomatch h
    next hout =>
      cases h
      exact ⟨rfl, fun h => hout (hserved.mpr h)⟩
  · rintro ⟨rfl, hout⟩
    rw [if_neg fun h => hout (hserved.mp h)]

/-- **The controller is behind the window**, and has no more pins than register numbers can tell
apart. -/
structure IsWired (a : IoApic R) (w : Wiring R σ) : Prop where
  /-- The driver uses the handle of the window. -/
  window : a.window = w.handle
  /-- The registers of every pin have numbers of their own. -/
  pins : a.pins.toNat ≤ 120

/-! ## Reading and writing entries -/

/-- **Reading the entry of a pin.** -/
theorem runs_readEntry (ha : a.IsWired w) (h : w.ready s) (hpin : pin < a.pins) :
    ∃ s', w.Runs (a.readEntry pin) s (.ok ((w.registers s).entry pin))
      [.read (lowRegister pin) (w.registers s (lowRegister pin)),
        .read (highRegister pin) (w.registers s (highRegister pin))] s' := by
  obtain ⟨s₁, hlow⟩ := w.runs_readRegister h (lowRegister pin)
  obtain ⟨s₂, hhigh⟩ := w.runs_readRegister hlow.ready (highRegister pin)
  have hsame : w.registers s₁ = w.registers s := hlow.registers
  rw [hsame] at hhigh
  unfold readEntry
  rw [if_pos hpin, ha.window]
  exact hlow.bind (hhigh.bind_nil (Wiring.runs_pure hhigh.ready _))

/-- **Writing the entry of a pin.** -/
theorem runs_writeEntry (ha : a.IsWired w) (h : w.ready s) (hpin : pin < a.pins)
    (e : Redirection) :
    ∃ s', w.Runs (a.writeEntry pin e) s (.ok ()) (pinWrites pin e) s' := by
  obtain ⟨s₁, hwrite⟩ := w.runs_writePin h pin e
  unfold writeEntry
  rw [if_pos hpin, ha.window]
  exact hwrite.bind_nil (Wiring.runs_pure hwrite.ready _)

/-- **Enabling an interrupt** writes its entry to its pin. -/
theorem runs_enable (ha : a.IsWired w) (h : w.ready s)
    (hpin : a.pinOf (a.gsiOf irq) = .ok pin) (vector : UInt8) :
    ∃ s', w.Runs (a.enable irq vector) s (.ok ()) (pinWrites pin (a.entryFor irq vector)) s' := by
  obtain ⟨s₁, hwrite⟩ := w.runs_writePin h pin (a.entryFor irq vector)
  unfold enable
  dsimp only
  rw [hpin, ha.window]
  exact hwrite.bind_nil
    (Wiring.runs_log_bind hwrite.ready _ _ fun _ h => Wiring.runs_pure h _)

/-- An interrupt that is not served cannot be enabled, and nothing comes of the attempt. -/
theorem enable_of_refused {m : Type → Type} [Monad m] [RegisterBus R m] [Logger m]
    {e : IoApicError} (hpin : a.pinOf (a.gsiOf irq) = .error e) :
    a.enable (m := m) irq vector = pure (.error e) := by
  unfold enable
  dsimp only
  rw [hpin]

/-- **Disabling an interrupt** writes the entry of its pin back, masked. -/
theorem runs_disable (ha : a.IsWired w) (h : w.ready s)
    (hpin : a.pinOf (a.gsiOf irq) = .ok pin) :
    ∃ s', w.Runs (a.disable irq) s (.ok ())
      ([.read (lowRegister pin) (w.registers s (lowRegister pin)),
          .read (highRegister pin) (w.registers s (highRegister pin))]
        ++ pinWrites pin (((w.registers s).entry pin).withMasked true)) s' := by
  have hlt : pin < a.pins := (pinOf_eq_ok.mp hpin).2.1
  obtain ⟨s₁, hread⟩ := runs_readEntry ha h hlt
  obtain ⟨s₂, hwrite⟩ :=
    w.runs_writePin hread.ready pin (((w.registers s).entry pin).withMasked true)
  unfold disable
  rw [hpin, ha.window]
  exact hread.bind (hwrite.bind_nil (Wiring.runs_pure hwrite.ready _))

/-- An interrupt that is not served cannot be disabled, and nothing comes of the attempt. -/
theorem disable_of_refused {m : Type → Type} [Monad m] [RegisterBus R m] [MonadExceptOf Stop m]
    {e : IoApicError} (hpin : a.pinOf (a.gsiOf irq) = .error e) :
    a.disable (m := m) irq = pure (.error e) := by
  unfold disable
  rw [hpin]

end IoApic

end Interrupts
