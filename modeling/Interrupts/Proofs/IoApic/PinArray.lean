import Interrupts.Proofs.IoApic.Probing

/-!
# An I/O APIC is an array of entries

To the rest of the kernel an I/O APIC is as many 64-bit entries as it has pins. Each of them can be
read and written, an interrupt is enabled by writing its route to the pin that serves it, and
disabled by masking that pin. `PinArray.serve` is all there is to it.

Behind the window each of these is several accesses to registers. The main statement is that none of
this shows: a probe masks every pin, and whatever is asked of the controller after it, the answers
are those of the array, the registers of the pins hold what the array holds, and no other register
changes.
-/

namespace Interrupts

open Sim (WindowEvent)

variable {R : Type}

/-- **What is asked of a controller** with a number of pins. -/
inductive PinRequest (n : Nat) where
  /-- Send an interrupt to a vector, by its number on the legacy bus. -/
  | enable (irq vector : UInt8)
  /-- Mask the pin of an interrupt. -/
  | disable (irq : UInt8)
  /-- Write an entry as it is given. -/
  | write (pin : Fin n) (e : Redirection)
  /-- Read an entry. -/
  | read (pin : Fin n)

/-- **The answer**: an entry that was asked for, or only that all went well, or a refusal. -/
abbrev PinReply := Except IoApicError (Option Redirection)

namespace IoApic

/-- The pin that serves an interrupt. -/
def servedPin? (a : IoApic R) (irq : UInt8) : Option (Fin a.pins.toNat) :=
  if h : a.gsiBase.toNat ≤ (a.gsiOf irq).toNat
      ∧ (a.gsiOf irq).toNat < a.gsiBase.toNat + a.pins.toNat then
    some ⟨(a.gsiOf irq).toNat - a.gsiBase.toNat, by omega⟩
  else none

section Drive

variable {m : Type → Type} [Monad m] [RegisterBus R m] [Logger m] [MonadExceptOf Stop m]

/-- **Do what is asked.** -/
def handle (a : IoApic R) : PinRequest a.pins.toNat → m PinReply
  | .enable irq vector => do pure ((← a.enable irq vector).map fun _ => none)
  | .disable irq => do pure ((← a.disable irq).map fun _ => none)
  | .write pin e => do pure ((← a.writeEntry (UInt32.ofNat pin) e).map fun _ => none)
  | .read pin => do pure ((← a.readEntry (UInt32.ofNat pin)).map some)

/-- **Do all that is asked**, in order. -/
def handleAll (a : IoApic R) : List (PinRequest a.pins.toNat) → m (List PinReply)
  | [] => pure []
  | q :: qs => do
    let reply ← a.handle q
    let replies ← a.handleAll qs
    pure (reply :: replies)

end Drive

end IoApic

/-! ## The array -/

/-- **The entries of a number of pins.** -/
abbrev PinArray (n : Nat) := Fin n → Redirection

namespace PinArray

/-- **What the array answers, and what it holds afterwards.** -/
def serve (a : IoApic R) (t : PinArray a.pins.toNat) :
    PinRequest a.pins.toNat → PinReply × PinArray a.pins.toNat
  | .enable irq vector =>
    match a.servedPin? irq with
    | none => (.error (.gsiOutOfRange (a.gsiOf irq)), t)
    | some pin =>
      (.ok none, Function.update t pin
        (.route vector a.destination (a.polarityOf irq) (a.triggerOf irq)))
  | .disable irq =>
    match a.servedPin? irq with
    | none => (.error (.gsiOutOfRange (a.gsiOf irq)), t)
    | some pin => (.ok none, Function.update t pin ((t pin).withMasked true))
  | .write pin e => (.ok none, Function.update t pin e)
  | .read pin => (.ok (some (t pin)), t)

/-- **The answers to a list of requests**, and what the array holds after them. -/
def serveAll (a : IoApic R) (t : PinArray a.pins.toNat) :
    List (PinRequest a.pins.toNat) → List PinReply × PinArray a.pins.toNat
  | [] => ([], t)
  | q :: qs =>
    let first := serve a t q
    let rest := serveAll a first.2 qs
    (first.1 :: rest.1, rest.2)

end PinArray

namespace RegisterFile

/-- **The array in the registers.** -/
def pinArray (f : RegisterFile) (n : Nat) : PinArray n :=
  fun pin => f.entry (UInt32.ofNat pin)

/-- The register does not belong to a pin. -/
def IsSpare (n : Nat) (r : UInt8) : Prop :=
  ∀ pin : Fin n, r ≠ IoApic.lowRegister (UInt32.ofNat pin)
    ∧ r ≠ IoApic.highRegister (UInt32.ofNat pin)

variable {n : Nat}

theorem toNat_ofNat_pin (hn : n ≤ 120) (pin : Fin n) : (UInt32.ofNat pin).toNat = pin :=
  Nat.mod_eq_of_lt (by omega)

/-- Different pins have different numbers. -/
theorem ofNat_pin_ne (hn : n ≤ 120) {pin pin' : Fin n} (h : pin' ≠ pin) :
    UInt32.ofNat pin' ≠ UInt32.ofNat pin := by
  intro heq
  have := congrArg UInt32.toNat heq
  rw [toNat_ofNat_pin hn, toNat_ofNat_pin hn] at this
  exact h (Fin.ext this)

/-- **Writing the registers of a pin writes the array.** -/
theorem pinArray_after_pinWrites (f : RegisterFile) (hn : n ≤ 120) (pin : Fin n) (e : Redirection) :
    (f.after (IoApic.pinWrites (UInt32.ofNat pin) e)).pinArray n
      = Function.update (f.pinArray n) pin e := by
  have hlt : ∀ i : Fin n, (UInt32.ofNat i).toNat < 120 := by
    intro i
    rw [toNat_ofNat_pin hn]
    omega
  funext pin'
  rw [pinArray]
  by_cases h : pin' = pin
  · subst h
    rw [Function.update_self, entry_after_pinWrites _ _ (hlt pin')]
  · rw [Function.update_of_ne h,
      entry_after_pinWrites_of_ne _ _ (hlt pin) (hlt pin') (ofNat_pin_ne hn h), pinArray]

theorem IsSpare.after_pinWrites {r : UInt8} (h : IsSpare n r) (f : RegisterFile) (pin : Fin n)
    (e : Redirection) : f.after (IoApic.pinWrites (UInt32.ofNat pin) e) r = f r :=
  after_pinWrites_of_ne f e (h pin).1 (h pin).2

end RegisterFile

/-! ## The refinement -/

variable {σ : Type} [RegisterBus R (EStateM Stop σ)] [Logger (EStateM Stop σ)]

/-- **A computation returns this answer and leaves this array** in the registers of the pins; the
registers that belong to no pin stay as they are. -/
structure Wiring.Leaves (w : Wiring R σ) {α : Type} {n : Nat} (x : EStateM Stop σ α) (s : σ) (a : α)
    (t : PinArray n) (s' : σ) : Prop where
  /-- It returns, and accesses the registers only. -/
  runs : ∃ es, w.Runs x s a es s'
  /-- The entries of the pins are those of the array. -/
  pins : (w.registers s').pinArray n = t
  /-- The other registers are as they were. -/
  spare : ∀ r, RegisterFile.IsSpare n r → w.registers s' r = w.registers s r

namespace Wiring.Leaves

variable {w : Wiring R σ} {α β : Type} {n : Nat} {x : EStateM Stop σ α} {s s' : σ} {a : α}
  {t : PinArray n} {es : List WindowEvent}

/-- The answer may be turned into another. -/
theorem map (hx : w.Leaves x s a t s') (f : α → β) :
    w.Leaves (do pure (f (← x))) s (f a) t s' where
  runs := hx.runs.imp fun _ h => h.map f
  pins := hx.pins
  spare := hx.spare

/-- Two requests in a row. -/
theorem bind {f : α → EStateM Stop σ β} {b : β} {t' : PinArray n} {s'' : σ}
    (hx : w.Leaves x s a t s') (hf : w.Leaves (f a) s' b t' s'') :
    w.Leaves (x >>= f) s b t' s'' where
  runs := by
    obtain ⟨es, hx⟩ := hx.runs
    obtain ⟨es', hf⟩ := hf.runs
    exact ⟨es ++ es', hx.andThen hf⟩
  pins := hf.pins
  spare := fun r hr => (hf.spare r hr).trans (hx.spare r hr)

/-- Accesses that change nothing leave the array. -/
theorem of_unchanged (hx : ∃ s', w.Runs x s a es s')
    (hes : (w.registers s).after es = w.registers s) :
    ∃ s', w.Leaves x s a ((w.registers s).pinArray n) s' := by
  obtain ⟨s', hx⟩ := hx
  have hregisters : w.registers s' = w.registers s := hx.registers.trans hes
  exact ⟨s', ⟨es, hx⟩, congrArg (RegisterFile.pinArray · n) hregisters,
    fun r _ => congrFun hregisters r⟩

/-- The writes of a pin leave the array with one entry written. -/
theorem of_pinWrites (hn : n ≤ 120) (pin : Fin n) (e : Redirection)
    (hx : ∃ s', w.Runs x s a es s')
    (hes : (w.registers s).after es
      = (w.registers s).after (IoApic.pinWrites (UInt32.ofNat pin) e)) :
    ∃ s', w.Leaves x s a (Function.update ((w.registers s).pinArray n) pin e) s' := by
  obtain ⟨s', hx⟩ := hx
  have hregisters := hx.registers.trans hes
  refine ⟨s', ⟨es, hx⟩, ?_, fun r hr => ?_⟩
  · rw [hregisters, RegisterFile.pinArray_after_pinWrites _ hn]
  · rw [hregisters, hr.after_pinWrites]

end Wiring.Leaves

namespace IoApic

variable {w : Wiring R σ} {a : IoApic R} {s : σ} {irq : UInt8}

/-- An interrupt that is served has its pin. -/
theorem pinOf_of_served {pin : Fin a.pins.toNat} (h : a.servedPin? irq = some pin) :
    a.pinOf (a.gsiOf irq) = .ok (UInt32.ofNat pin) := by
  have hpin : (UInt32.ofNat pin).toNat = pin :=
    Nat.mod_eq_of_lt (Nat.lt_trans pin.isLt a.pins.toNat_lt)
  unfold servedPin? at h
  split at h
  next hserved =>
    rw [pinOf_eq_ok, hpin]
    exact ⟨hserved.1, pin.isLt, congrArg Fin.val (Option.some.inj h).symm⟩
  next => exact nomatch h

/-- And one that is not is out of range. -/
theorem pinOf_of_not_served (h : a.servedPin? irq = none) :
    a.pinOf (a.gsiOf irq) = .error (.gsiOutOfRange (a.gsiOf irq)) := by
  unfold servedPin? at h
  split at h
  next => exact nomatch h
  next hout => exact pinOf_eq_error.mpr ⟨rfl, hout⟩

theorem ofNat_lt_pins (pin : Fin a.pins.toNat) : UInt32.ofNat pin < a.pins := by
  rw [UInt32.lt_iff_toNat_lt, UInt32.toNat_ofNat_of_lt' (Nat.lt_trans pin.isLt a.pins.toNat_lt)]
  exact pin.isLt

/-- **What is asked of the controller is done to the array.** -/
theorem leaves_handle (ha : a.IsWired w) (h : w.ready s) (q : PinRequest a.pins.toNat) :
    ∃ s', w.Leaves (a.handle q) s
      (PinArray.serve a ((w.registers s).pinArray a.pins.toNat) q).1
      (PinArray.serve a ((w.registers s).pinArray a.pins.toNat) q).2 s' := by
  cases q with
  | enable irq vector =>
    unfold PinArray.serve handle
    dsimp only
    cases hserved : a.servedPin? irq with
    | none =>
      rw [enable_of_refused (pinOf_of_not_served hserved)]
      exact (Wiring.Leaves.of_unchanged (w.runs_pure h _) rfl).imp fun _ h => h.map _
    | some pin =>
      rw [← entryFor_eq_route]
      exact (Wiring.Leaves.of_pinWrites ha.pins pin _
        (runs_enable ha h (pinOf_of_served hserved) vector) rfl).imp fun _ h => h.map _
  | disable irq =>
    unfold PinArray.serve handle
    dsimp only
    cases hserved : a.servedPin? irq with
    | none =>
      rw [disable_of_refused (pinOf_of_not_served hserved)]
      exact (Wiring.Leaves.of_unchanged (w.runs_pure h _) rfl).imp fun _ h => h.map _
    | some pin =>
      exact (Wiring.Leaves.of_pinWrites ha.pins pin _
        (runs_disable ha h (pinOf_of_served hserved)) rfl).imp fun _ h => h.map _
  | write pin e =>
    exact (Wiring.Leaves.of_pinWrites ha.pins pin e
      (runs_writeEntry ha h (ofNat_lt_pins pin) e) rfl).imp fun _ h => h.map _
  | read pin =>
    exact (Wiring.Leaves.of_unchanged
      (runs_readEntry ha h (ofNat_lt_pins pin)) rfl).imp fun _ h => h.map _

/-- **A whole list of requests** is answered as by the array. -/
theorem leaves_handleAll (ha : a.IsWired w) (h : w.ready s)
    (qs : List (PinRequest a.pins.toNat)) :
    ∃ s', w.Leaves (a.handleAll qs) s
      (PinArray.serveAll a ((w.registers s).pinArray a.pins.toNat) qs).1
      (PinArray.serveAll a ((w.registers s).pinArray a.pins.toNat) qs).2 s' := by
  induction qs generalizing s with
  | nil => exact Wiring.Leaves.of_unchanged (w.runs_pure h _) rfl
  | cons q qs ih =>
    obtain ⟨s₁, hfirst⟩ := leaves_handle ha h q
    obtain ⟨es, hruns⟩ := hfirst.runs
    obtain ⟨s₂, hrest⟩ := ih hruns.ready
    rw [hfirst.pins] at hrest
    exact ⟨s₂, hfirst.bind (hrest.map _)⟩

/-! ## Probing -/

/-- Masking all pins masks the array. -/
theorem pinArray_after_maskWrites (f : RegisterFile) {n : Nat} (hn : n ≤ 120) :
    (f.after (maskWrites n 0)).pinArray n = fun _ => .masked := by
  funext pin
  refine entry_after_maskWrites_zero f hn ?_
  rw [RegisterFile.toNat_ofNat_pin hn]
  exact pin.isLt

/-- Masking the pins leaves the other registers alone. -/
theorem after_maskWrites_of_isSpare (f : RegisterFile) {n : Nat} {r : UInt8}
    (hr : RegisterFile.IsSpare n r) : f.after (maskWrites n 0) r = f r := by
  refine f.after_of_not_written r _ fun v hv => ?_
  rw [maskWrites_zero] at hv
  obtain ⟨i, hi, hwrite⟩ := List.mem_flatMap.mp hv
  obtain ⟨hlow, hhigh⟩ := hr ⟨i, List.mem_range.mp hi⟩
  simp only [pinWrites, List.mem_cons, WindowEvent.write.injEq, List.not_mem_nil, or_false]
    at hwrite
  rcases hwrite with ⟨h, -⟩ | ⟨h, -⟩
  · exact hhigh h
  · exact hlow h

section Probe

variable {T : Type} [Acpi.PlatformTables T] {platform : T} {destination : UInt8}
  {map : Acpi.IoApicInfo → EStateM Stop σ (Except IoApicError R)}

/-- **An I/O APIC is an array of entries.** A probe that fails leaves every register alone. One that
succeeds reads the version and masks the pins, of which there are between 1 and 120, in order and
the high half of each first; what is asked of the controller afterwards is answered as by an array
that was masked throughout, and left in the registers of the pins as in that array. No other
register changes. An interrupt that arrives outside the range of the pins is refused under the
number it arrives at, and the refusal changes nothing at all. -/
theorem probe_isPinArray (hmap : Maps w map) (h : w.ready s) :
    (∀ e s', probe platform destination map s = .ok (.error e) s' →
        w.accesses s' = w.accesses s ∧ w.registers s' = w.registers s)
      ∧ ∀ a s', probe platform destination map s = .ok (.ok a) s' →
        (1 ≤ a.pins.toNat ∧ a.pins.toNat ≤ 120)
        ∧ w.accesses s' = w.accesses s
          ++ .read versionRegister (w.registers s versionRegister)
            :: (List.range a.pins.toNat).flatMap (fun i => pinWrites (UInt32.ofNat i) .masked)
        ∧ (w.registers s').pinArray a.pins.toNat = (fun _ => .masked)
        ∧ (∀ requests, ∃ s'',
            w.Leaves (a.handleAll requests) s' (PinArray.serveAll a (fun _ => .masked) requests).1
              (PinArray.serveAll a (fun _ => .masked) requests).2 s''
            ∧ ∀ r, RegisterFile.IsSpare a.pins.toNat r → w.registers s'' r = w.registers s r)
        ∧ ∀ irq vector s₁, ¬(a.gsiBase.toNat ≤ (a.gsiOf irq).toNat
            ∧ (a.gsiOf irq).toNat < a.gsiBase.toNat + a.pins.toNat) →
          a.enable (m := EStateM Stop σ) irq vector s₁
              = .ok (.error (.gsiOutOfRange (a.gsiOf irq))) s₁
            ∧ a.disable (m := EStateM Stop σ) irq s₁
              = .ok (.error (.gsiOutOfRange (a.gsiOf irq))) s₁ := by
  refine ⟨fun e s' hprobe => ?_, fun a s' hprobe => ?_⟩
  · have hruns := probe_eq_error hmap h hprobe
    exact ⟨hruns.accesses.trans (List.append_nil _), hruns.registers⟩
  · obtain ⟨⟨info, ha⟩, hruns⟩ := probe_eq_ok hmap h hprobe
    have hwired : a.IsWired w := ha ▸ isWired_probed platform info destination _
    have hpins : a.pins = pinsOfVersion (w.registers s versionRegister) :=
      ha ▸ pins_probed _ _ _ _ _
    -- A probe that succeeds reads the version and then masks all pins, so what follows begins with
    -- an array of masked ones.
    have hregisters : w.registers s' = (w.registers s).after (maskWrites a.pins.toNat 0) := by
      rw [hruns.registers, hpins]
      rfl
    have hmasked : (w.registers s').pinArray a.pins.toNat = fun _ => .masked := by
      rw [hregisters, pinArray_after_maskWrites _ hwired.pins]
    refine ⟨hpins ▸ pinsOfVersion_bounds _, ?_, hmasked, fun requests => ?_, ?_⟩
    · rw [hruns.accesses, setUpAccesses, hpins, maskWrites_zero]
    · obtain ⟨s'', hleaves⟩ := leaves_handleAll hwired hruns.ready requests
      rw [hmasked] at hleaves
      refine ⟨s'', hleaves, fun r hr => ?_⟩
      rw [hleaves.spare r hr, hregisters, after_maskWrites_of_isSpare _ hr]
    · intro irq vector s₁ hout
      have hrefused : a.pinOf (a.gsiOf irq) = .error (.gsiOutOfRange (a.gsiOf irq)) :=
        pinOf_eq_error.mpr ⟨rfl, hout⟩
      rw [enable_of_refused hrefused, disable_of_refused hrefused]
      exact ⟨rfl, rfl⟩

end Probe

end IoApic

namespace Sim.ProbeRig

/-- Interrupt 9 is served by one of the four pins, and interrupt 3 by none. -/
theorem probe_isPinArray_inUse :
    (IoApic.Maps wiring map ∧ wiring.ready inUse)
      ∧ ∃ a s', IoApic.probe (m := BenchM ProbeRig) rerouted 5 map inUse = .ok (.ok a) s'
        ∧ a.pins = 4
        ∧ (wiring.registers s').pinArray a.pins.toNat = (fun _ => .masked)
        ∧ ∃ s'', a.handleAll (m := BenchM ProbeRig) ([9, 3].map (.enable · 0x40)) s'
          = .ok [.ok none, .error (.gsiOutOfRange 3)] s'' := by
  have hready : wiring.ready inUse := rfl
  have hview : probeView (fun a => (a.pins,
      (PinArray.serveAll a (fun _ => .masked) ([9, 3].map (.enable · 0x40))).1))
      = some (4, [.ok none, .error (.gsiOutOfRange 3)]) := by
    decide +kernel
  obtain ⟨a, s', hprobe, hsees⟩ := exists_probe hview
  obtain ⟨hpins, hreplies⟩ := Prod.mk.inj hsees
  obtain ⟨-, -, hmasked, hserved, -⟩ := (IoApic.probe_isPinArray maps_map hready).2 a s' hprobe
  obtain ⟨s'', hleaves, -⟩ := hserved ([9, 3].map (.enable · 0x40))
  obtain ⟨es, hruns⟩ := hleaves.runs
  exact ⟨⟨maps_map, hready⟩, a, s', hprobe, hpins, hmasked, s'', hreplies ▸ hruns.run⟩

end Sim.ProbeRig

end Interrupts
