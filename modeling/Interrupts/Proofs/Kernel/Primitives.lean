import Interrupts.Proofs.Kernel.Conduct

/-!
# The kernel's primitives keep to a conduct

The steps from which everything else is made: a step of the hardware, an access to a port or to a
register, a log line, the identity of the executing processor, a tick. Each of them is shown to
keep to every conduct that allows the writes it makes.
-/

namespace Interrupts

open Boot

variable {X : Surroundings} [Behaviour X] {c : Conduct X} {k : Kernel X}

namespace Conduct

/-! ## Hardware -/

theorem obeys_onHardware {α : Type} {f : X.Hardware → α × X.Hardware}
    (h : ∀ hw, c.keeps hw (f hw).2) : c.discipline.Obeys k (onHardware f) :=
  .step rfl ⟨h k.hardware, .refl _, .inr ⟨rfl, rfl⟩, rfl⟩

theorem obeys_stepHardware {f : X.Hardware → X.Hardware} (h : ∀ hw, c.keeps hw (f hw)) :
    c.discipline.Obeys k (stepHardware f) :=
  .step rfl ⟨h k.hardware, .refl _, .inr ⟨rfl, rfl⟩, rfl⟩

theorem obeys_askHardware {α : Type} (f : X.Hardware → α) :
    c.discipline.Obeys k (askHardware f) :=
  .step rfl (Kernel.Keeps.refl c k)

/-- The processors that came online raise their flags. -/
theorem obeys_noticeArrivals : c.discipline.Obeys k (noticeArrivals (X := X)) :=
  (obeys_onHardware c.arrivals).bind fun _ _ =>
    .step rfl ⟨c.refl _, ProcessorTable.raises_foldl ProcessorTable.raises_markStartedId _ _,
      .inr ⟨rfl, rfl⟩, rfl⟩

theorem obeys_read8 (p : MachinePorts) (port : UInt16) :
    c.discipline.Obeys k (PortBus.read8 (m := Boot X) p port) :=
  obeys_onHardware (c.portRead port)

theorem obeys_write8 (p : MachinePorts) {port : UInt16} {value : UInt8}
    (h : c.mayWrite port value) :
    c.discipline.Obeys k (PortBus.write8 (m := Boot X) p port value) :=
  (obeys_stepHardware (c.portWrite h)).bind fun _ _ => obeys_noticeArrivals

/-! ## Arithmetic and windows -/

/-- Only a kernel that may stop comes to a mishap. -/
theorem obeys_throw {α : Type} {e : Stop} (h : c.MayStop k) (he : e.IsMishap) :
    c.discipline.Obeys k (throw e : Boot X α) :=
  .throw ⟨Kernel.Keeps.refl c k, .inl ⟨h, he⟩⟩

theorem obeys_addWord64 {a b : UInt64} (h : c.MayStop k ∨ a.toNat + b.toNat < UInt64.size) :
    c.discipline.Obeys k (addWord64 a b : Boot X UInt64) :=
  .ite (fun _ => .pure _) fun hge => obeys_throw (h.resolve_right hge) trivial

end Conduct

/-- The register lies in the window, and its address does not wrap. -/
structure Window.Holds (w : Window) (offset : UInt64) : Prop where
  aligned : offset % 4 = 0
  inside : offset.toNat + 4 ≤ w.size.toNat
  fits : w.virtBase.toNat + offset.toNat < UInt64.size

/-- A page holds every aligned register below its end. -/
theorem Window.IsPage.holds {w : Window} (h : w.IsPage) {offset : UInt64}
    (haligned : offset % 4 = 0) (hinside : offset.toNat + 4 ≤ 0x1000) : w.Holds offset where
  aligned := haligned
  inside := Nat.le_trans hinside h.1
  fits := by have := h.2; omega

/-- A sum that was returned did not wrap. -/
theorem addWord64_eq_ok {σ : Type} {s s' : σ} {a b v : UInt64}
    (h : (addWord64 a b : EStateM Stop σ UInt64) s = .ok v s') :
    a.toNat + b.toNat < UInt64.size ∧ v = a + b ∧ s' = s := by
  unfold addWord64 at h
  by_cases hlt : a.toNat + b.toNat < UInt64.size
  · rw [if_pos hlt] at h
    obtain ⟨rfl, rfl⟩ := pure_eq_ok.mp h
    exact ⟨hlt, rfl, rfl⟩
  · rw [if_neg hlt] at h
    exact nomatch h

namespace Window

variable {σ : Type} {s s' : σ} {w : Window} {offset : UInt64}

/-- A window admits the registers that lie inside. -/
theorem admits_eq_ok {b : Bool} (h : (w.admits offset : EStateM Stop σ Bool) s = .ok b s') :
    (b = true ↔ offset % 4 = 0 ∧ offset.toNat + 4 ≤ w.size.toNat) ∧ s' = s := by
  unfold admits at h
  by_cases haligned : offset % 4 = 0
  · rw [if_pos haligned] at h
    obtain ⟨stop, s₁, hadd, hpure⟩ := bind_eq_ok.mp h
    obtain ⟨hlt, rfl, rfl⟩ := addWord64_eq_ok hadd
    obtain ⟨rfl, rfl⟩ := pure_eq_ok.mp hpure
    refine ⟨?_, rfl⟩
    rw [decide_eq_true_eq, UInt64.le_iff_toNat_le, UInt64.toNat_add, Nat.mod_eq_of_lt hlt]
    exact ⟨fun h => ⟨haligned, h⟩, fun h => h.2⟩
  · rw [if_neg haligned] at h
    obtain ⟨rfl, rfl⟩ := pure_eq_ok.mp h
    exact ⟨⟨fun h => (nomatch h), fun h => absurd h.1 haligned⟩, rfl⟩

/-- The address of a register that is written is its place in the window. -/
theorem writeAddress_eq_ok {address : UInt64}
    (h : (w.writeAddress offset : EStateM Stop σ UInt64) s = .ok address s') :
    address = w.virtBase + offset ∧ s' = s := by
  obtain ⟨admitted, s₁, hadmits, h⟩ := bind_eq_ok.mp h
  obtain ⟨-, rfl⟩ := admits_eq_ok hadmits
  cases admitted with
  | true =>
    obtain ⟨-, rfl, rfl⟩ := addWord64_eq_ok h
    exact ⟨rfl, rfl⟩
  | false => exact nomatch h

end Window

namespace Conduct

variable {w : Window} {offset : UInt64}

/-- Whether a register lies in the window is asked for without any access. -/
theorem obeys_admits (h : c.MayStop k ∨ w.Holds offset) :
    c.discipline.Obeys k (w.admits offset : Boot X Bool) :=
  .ite (fun _ => (obeys_addWord64 (h.imp_right fun h => by
      have := w.size.toNat_lt
      exact Nat.lt_of_le_of_lt h.inside this)).bind fun _ _ => .pure _)
    fun _ => .pure _

/-- Looking up the address of a register. -/
theorem obeys_address (h : c.MayStop k ∨ w.Holds offset) {e : Stop} (he : e.IsMishap) :
    c.discipline.Obeys k (do
      if ← w.admits offset then addWord64 w.virtBase offset else throw e : Boot X UInt64) := by
  refine (obeys_admits h).bind fun {admitted k'} hadmits hkeeps => ?_
  obtain ⟨hiff, rfl⟩ := Window.admits_eq_ok hadmits
  refine .ite (fun _ => obeys_addWord64 (h.imp_right Window.Holds.fits)) fun hrefused => ?_
  refine obeys_throw (h.resolve_right fun hholds => hrefused ?_) he
  exact hiff.mpr ⟨hholds.aligned, hholds.inside⟩

theorem obeys_read32 (h : c.MayStop k ∨ w.Holds offset) :
    c.discipline.Obeys k (RegisterBus.read32 (m := Boot X) w offset) :=
  (obeys_address h (e := .fault (.readOutOfBounds offset w.size)) trivial).bind fun _ _ =>
    obeys_onHardware (c.load _)

/-- A register is written if the conduct allows the store. -/
theorem obeys_write32 {value : UInt32} (h : c.MayStop k ∨ w.Holds offset)
    (hstore : c.mayStore (w.virtBase + offset) value) :
    c.discipline.Obeys k (RegisterBus.write32 (m := Boot X) w offset value) :=
  (obeys_address h (e := .fault (.writeOutOfBounds offset w.size)) trivial).bind
    fun {address _} haddress _ => by
      obtain ⟨rfl, -⟩ := Window.writeAddress_eq_ok haddress
      exact obeys_stepHardware (c.store hstore)

/-! ## Log lines -/

/-- Waiting for the serial port may be in vain, and then it stops the kernel. -/
theorem obeys_awaitEmpty (h : c.MayStop k) (p : MachinePorts) (patience : Nat) :
    c.discipline.Obeys k (Serial.awaitEmpty (m := Boot X) p patience) := by
  induction patience generalizing k with
  | zero => exact obeys_throw h trivial
  | succ patience ih =>
    exact (obeys_read8 p _).bind fun _ hkeeps =>
      .ite (fun _ => .pure _) fun _ => ih (h.of_keeps hkeeps)

/-- Bytes are sent one by one, after the port has been waited for. -/
theorem obeys_sendRaw (h : c.MayStop k) (p : MachinePorts) (bytes : Bytes) :
    c.discipline.Obeys k (Serial.sendRaw (m := Boot X) p bytes) := by
  induction bytes generalizing k with
  | nil => exact .pure _
  | cons b bytes ih =>
    exact (obeys_awaitEmpty h p _).bind fun _ hkeeps =>
      (obeys_write8 p (c.serial b)).bind fun _ hkeeps' =>
        ih ((h.of_keeps hkeeps).of_keeps hkeeps')

/-- **A log line** changes nothing, and cannot stop a calm kernel. -/
theorem obeys_emit (level : Level) (text : String) :
    c.discipline.Obeys k (emit (X := X) level text) := by
  refine .look rfl (.ite (fun _ => ?_) fun _ => .pure _)
  cases hbackend : k.backend with
  | absent => exact .pure _
  | console => exact obeys_stepHardware (c.console text)
  | serial =>
    have hmay : c.MayStop k := fun h => h.2.backend hbackend
    exact (obeys_sendRaw hmay _ _).bind fun _ hkeeps => obeys_sendRaw (hmay.of_keeps hkeeps) _ _

theorem obeys_logAll (lines : List Record) : c.discipline.Obeys k (logAll (m := Boot X) lines) := by
  induction lines generalizing k with
  | nil => exact .pure _
  | cons r lines ih => exact (obeys_emit _ _).bind fun _ _ => ih

theorem obeys_carryOut {α : Type} {f : X.Hardware → Effect α X.Hardware}
    (h : ∀ hw, c.keeps hw (f hw).hardware) : c.discipline.Obeys k (carryOut f) :=
  .look rfl (.bind (.step rfl ⟨h k.hardware, .refl _, .inr ⟨rfl, rfl⟩, rfl⟩) fun _ _ =>
    (obeys_logAll _).bind fun _ _ => .pure _)

/-! ## Identity and ticks -/

/-- The id of the executing processor is known, or read off its Local APIC, or nobody has told it
yet. -/
theorem obeys_currentApicId : c.discipline.Obeys k (currentApicId (X := X)) := by
  refine .look rfl ?_
  cases hsource : k.apicIdSource with
  | unset => exact .pure _
  | told id => exact .pure _
  | localApic =>
    refine .look rfl ?_
    cases hapic : k.localApic.get? with
    | none => exact .pure _
    | some apic =>
      refine (obeys_read32 ?_).bind fun _ _ => .pure _
      by_cases hcalm : c.steady ∧ k.Calm
      · exact .inr ((hcalm.2.localApic apic hapic).holds (by decide) (by decide))
      · exact .inl hcalm

theorem obeys_currentCpu : c.discipline.Obeys k (currentCpu (X := X)) :=
  obeys_currentApicId.bind fun _ _ => .look rfl (.pure _)

/-- A tick counts, and runs the hook. -/
theorem obeys_tick (h : c.mayCount) : c.discipline.Obeys k (tick (X := X)) := by
  refine .look rfl (.bind (.step rfl ⟨c.refl _, .refl _, .inl h, rfl⟩) fun {_ k'} _ _ =>
    .look rfl ?_)
  cases k'.tickHook with
  | none => exact .pure _
  | some hook => exact (obeys_stepHardware (c.runHook h hook _)).bind fun _ _ => .pure _

/-- The tick counts on the first processor alone. -/
theorem obeys_serveTick (h : c.mayCount) (t : TimerTick) :
    c.discipline.Obeys k (serveTick (X := X) t) := by
  refine .bind (?_ : c.discipline.Obeys k (cpuOf t.source)) fun _ _ =>
    .ite (fun _ => (obeys_tick h).bind fun _ _ => .pure _) fun _ => .pure _
  cases t.source with
  | table => exact obeys_currentCpu
  | told cpu => exact .pure _

end Conduct

end Interrupts
