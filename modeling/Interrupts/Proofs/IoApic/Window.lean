import Mathlib.Logic.Function.Basic
import Interrupts.Proofs.Discipline
import Interrupts.Proofs.IoApic.Routes
import Interrupts.Sim.Registers

/-!
# Behind the window

What the driver of an I/O APIC does to the hardware is a list of accesses to registers, and what
the registers hold afterwards follows from that list: `RegisterFile.after`. A `Wiring` says that a
state has a select and a data register with 256 others behind them, whatever else it has; `Runs`
says of a computation what it answers and which registers it used on the way.

Every pin has two of the registers to itself, as long as there are no more than 120 pins. So the two
writes that set a pin set its entry, and leave those of the other pins alone.
-/

namespace Interrupts

open Sim (SelectWindow WindowEvent)

/-! ## Register files -/

/-- **What 256 registers hold.** -/
abbrev RegisterFile := UInt8 → UInt32

namespace RegisterFile

/-- What the registers hold after an access. -/
def step (f : RegisterFile) : WindowEvent → RegisterFile
  | .read _ _ => f
  | .write r v => Function.update f r v

/-- **What the registers hold after a list of accesses.** -/
def after (f : RegisterFile) (es : List WindowEvent) : RegisterFile :=
  es.foldl step f

/-- **The entry of a pin**, made of its two registers. -/
def entry (f : RegisterFile) (pin : UInt32) : Redirection :=
  .ofHalves (f (IoApic.lowRegister pin)) (f (IoApic.highRegister pin))

variable (f : RegisterFile) (r : UInt8) (v : UInt32) (es es' : List WindowEvent)

@[simp] theorem after_nil : f.after [] = f := rfl

@[simp] theorem after_read : f.after (.read r v :: es) = f.after es := rfl

@[simp] theorem after_write : f.after (.write r v :: es) = after (Function.update f r v) es := rfl

@[simp] theorem after_append : f.after (es ++ es') = (f.after es).after es' :=
  List.foldl_append

/-- A register that is not written stays. -/
theorem after_of_not_written (h : ∀ v, .write r v ∉ es) : f.after es r = f r := by
  induction es generalizing f with
  | nil => rfl
  | cons e es ih =>
    have hrest : ∀ v, .write r v ∉ es := fun v hv => h v (List.mem_cons_of_mem e hv)
    cases e with
    | read r' v' => exact ih f hrest
    | write r' v' =>
      have hne : r ≠ r' := by
        rintro rfl
        exact h v' List.mem_cons_self
      rw [after_write, ih _ hrest, Function.update_of_ne hne]

end RegisterFile

/-! ## Wirings -/

namespace Sim.SelectWindow

variable (w : SelectWindow) (r : UInt8) (v : UInt32)

/-- A register that was preset has that value. -/
theorem value_preset : (w.preset r v).value = Function.update w.value r v := by
  funext r'
  by_cases h : r' = r
  · subst h
    rw [Function.update_self]
    exact Vector.getElem_set_self _
  · have hne : r.toNat ≠ r'.toNat := fun heq => h (UInt8.toNat_inj.mp heq).symm
    rw [Function.update_of_ne h]
    exact Vector.getElem_set_ne r.toNat_lt r'.toNat_lt hne

theorem write_selectOffset :
    w.write IoApic.selectOffset r.toUInt32 = { w with selected := r } := by
  rw [write, if_neg (by decide), UInt8.toUInt8_toUInt32]

theorem write_dataOffset :
    w.write IoApic.dataOffset v
      = { w.preset w.selected v with events := w.events.push (.write w.selected v) } :=
  if_pos rfl

/-- Reading the data gives the selected register, and is noted. -/
theorem read_dataOffset (h : w.floating = false) :
    w.read IoApic.dataOffset
      = (w.value w.selected,
        { w with events := w.events.push (.read w.selected (w.value w.selected)) }) := by
  rw [read, h, if_pos (show IoApic.dataOffset = 0x10 from rfl)]
  rfl

end Sim.SelectWindow

variable {R σ : Type} [RegisterBus R (EStateM Stop σ)] [Logger (EStateM Stop σ)]

/-- **How a state has the window of an I/O APIC**: through a handle, in the states where the window
is ready. What is written to the handle and read from it goes to the window and comes from it, and
log lines do not. -/
structure Wiring (R σ : Type) [RegisterBus R (EStateM Stop σ)] [Logger (EStateM Stop σ)] where
  /-- The handle that the driver is given. -/
  handle : R
  /-- The registers behind it, and which of them is selected. -/
  window : σ → SelectWindow
  /-- The states in which an access can be made. -/
  ready : σ → Prop
  /-- There is a device behind the window. -/
  answers : ∀ {s}, ready s → (window s).floating = false
  /-- A read answers what the window shows. -/
  read : ∀ {s} (offset : UInt64), ready s → ∃ s', ready s'
    ∧ RegisterBus.read32 (m := EStateM Stop σ) handle offset s = .ok ((window s).read offset).1 s'
    ∧ window s' = ((window s).read offset).2
  /-- A write changes what the window holds, and nothing the driver sees otherwise. -/
  write : ∀ {s} (offset : UInt64) (v : UInt32), ready s → ∃ s', ready s'
    ∧ RegisterBus.write32 (m := EStateM Stop σ) handle offset v s = .ok () s'
    ∧ window s' = (window s).write offset v
  /-- Logging leaves the window alone. -/
  line : ∀ {s} (level : Level) (text : String), ready s → ∃ s', ready s'
    ∧ log (m := EStateM Stop σ) level text s = .ok () s' ∧ window s' = window s

namespace Wiring

variable (w : Wiring R σ) {s s' s'' : σ} {α β : Type}

/-- What the registers behind the window hold. -/
def registers (s : σ) : RegisterFile :=
  (w.window s).value

/-- The accesses to the registers so far. -/
def accesses (s : σ) : List WindowEvent :=
  (w.window s).events.toList

/-- **A computation returns this answer and makes these accesses** to the registers on the way. -/
structure Runs (x : EStateM Stop σ α) (s : σ) (a : α) (es : List WindowEvent) (s' : σ) : Prop where
  run : x s = .ok a s'
  /-- The window can be accessed again afterwards. -/
  ready : w.ready s'
  /-- These are all the accesses, in this order. -/
  accesses : w.accesses s' = w.accesses s ++ es
  /-- The registers are what these accesses make of them. -/
  registers : w.registers s' = (w.registers s).after es

variable {w} {x : EStateM Stop σ α} {a : α} {es : List WindowEvent}

/-- **Of two computations in a row, the accesses of the first come first.** -/
theorem Runs.andThen {f : α → EStateM Stop σ β} {b : β} {es' : List WindowEvent}
    (hx : w.Runs x s a es s') (hf : w.Runs (f a) s' b es' s'') :
    w.Runs (x >>= f) s b (es ++ es') s'' where
  run := (bind_of_ok hx.run).trans hf.run
  ready := hf.ready
  accesses := by rw [hf.accesses, hx.accesses, List.append_assoc]
  registers := by rw [hf.registers, hx.registers, RegisterFile.after_append]

theorem Runs.bind {f : α → EStateM Stop σ β} {b : β} {es' : List WindowEvent}
    (hx : w.Runs x s a es s') (hf : ∃ s'', w.Runs (f a) s' b es' s'') :
    ∃ s'', w.Runs (x >>= f) s b (es ++ es') s'' :=
  hf.imp fun _ h => hx.andThen h

/-- A step that makes no access, before another one. -/
theorem Runs.nil_bind {f : α → EStateM Stop σ β} {b : β} (hx : w.Runs x s a [] s')
    (hf : ∃ s'', w.Runs (f a) s' b es s'') : ∃ s'', w.Runs (x >>= f) s b es s'' :=
  hx.bind hf

/-- A step that makes no access, after another one. -/
theorem Runs.bind_nil {f : α → EStateM Stop σ β} {b : β} (hx : w.Runs x s a es s')
    (hf : ∃ s'', w.Runs (f a) s' b [] s'') : ∃ s'', w.Runs (x >>= f) s b es s'' := by
  have h := hx.bind hf
  rwa [List.append_nil] at h

/-- Only the answer is changed. -/
theorem Runs.map (hx : w.Runs x s a es s') (f : α → β) :
    w.Runs (do pure (f (← x))) s (f a) es s' where
  run := bind_of_ok hx.run
  ready := hx.ready
  accesses := hx.accesses
  registers := hx.registers

theorem runs_pure (h : w.ready s) (a : α) : ∃ s', w.Runs (pure a) s a [] s' :=
  ⟨s, rfl, h, (List.append_nil _).symm, rfl⟩

/-- Logging a line makes no access. -/
theorem runs_log (h : w.ready s) (level : Level) (text : String) :
    ∃ s', w.Runs (log level text) s () [] s' := by
  obtain ⟨s', hready, hrun, hwindow⟩ := w.line level text h
  refine ⟨s', hrun, hready, ?_, ?_⟩
  · rw [accesses, hwindow, List.append_nil, accesses]
  · rw [registers, hwindow, RegisterFile.after_nil, registers]

/-- A line may come before any step. -/
theorem runs_log_bind {f : Unit → EStateM Stop σ α} (h : w.ready s) (level : Level) (text : String)
    (hf : ∀ s', w.ready s' → ∃ s'', w.Runs (f ()) s' a es s'') :
    ∃ s', w.Runs (log level text >>= f) s a es s' := by
  obtain ⟨s', hlog⟩ := runs_log h level text
  exact hlog.nil_bind (hf s' hlog.ready)

/-- **Reading a register.** -/
theorem runs_readRegister (h : w.ready s) (r : UInt8) :
    ∃ s', w.Runs (IoApic.readRegister w.handle r) s (w.registers s r)
      [.read r (w.registers s r)] s' := by
  obtain ⟨s₁, hready₁, hselect, hwindow₁⟩ := w.write IoApic.selectOffset r.toUInt32 h
  obtain ⟨s₂, hready₂, hread, hwindow₂⟩ := w.read IoApic.dataOffset hready₁
  rw [SelectWindow.read_dataOffset _ (w.answers hready₁), hwindow₁,
    SelectWindow.write_selectOffset] at hread hwindow₂
  refine ⟨s₂, bind_eq_ok.mpr ⟨(), s₁, hselect, hread⟩, hready₂, ?_, ?_⟩
  · rw [accesses, hwindow₂]
    exact Array.toList_push
  · rw [registers, hwindow₂]
    rfl

/-- **Writing a register.** -/
theorem runs_writeRegister (h : w.ready s) (r : UInt8) (v : UInt32) :
    ∃ s', w.Runs (IoApic.writeRegister w.handle r v) s () [.write r v] s' := by
  obtain ⟨s₁, hready₁, hselect, hwindow₁⟩ := w.write IoApic.selectOffset r.toUInt32 h
  obtain ⟨s₂, hready₂, hwrite, hwindow₂⟩ := w.write IoApic.dataOffset v hready₁
  rw [SelectWindow.write_dataOffset, hwindow₁, SelectWindow.write_selectOffset] at hwindow₂
  refine ⟨s₂, bind_eq_ok.mpr ⟨(), s₁, hselect, hwrite⟩, hready₂, ?_, ?_⟩
  · rw [accesses, hwindow₂]
    exact Array.toList_push
  · rw [registers, hwindow₂]
    exact SelectWindow.value_preset _ r v

end Wiring

/-! ## The registers of pins -/

namespace IoApic

variable {pin pin' : UInt32} {r : UInt8}

/-- The registers of a pin, by their numbers: two for each, from the sixteenth on. -/
theorem toNat_lowRegister (h : pin.toNat < 120) : (lowRegister pin).toNat = 16 + 2 * pin.toNat := by
  have hindex : (0x10 + pin * 2 : UInt32).toNat = 16 + 2 * pin.toNat := by
    rw [UInt32.toNat_add, UInt32.toNat_mul]
    show (16 + pin.toNat * 2 % 2 ^ 32) % 2 ^ 32 = _
    omega
  have hle : ¬(254 : UInt32) < 0x10 + pin * 2 := by
    rw [UInt32.lt_iff_toNat_lt, hindex]
    show ¬254 < _
    omega
  rw [lowRegister, if_neg hle, UInt32.toNat_toUInt8, hindex]
  omega

theorem toNat_highRegister (h : pin.toNat < 120) :
    (highRegister pin).toNat = 17 + 2 * pin.toNat := by
  rw [highRegister, UInt8.toNat_add, toNat_lowRegister h]
  show (16 + 2 * pin.toNat + 1) % 256 = _
  omega

/-- **Two pins have four registers.** -/
theorem registers_ne (h : pin.toNat < 120) (h' : pin'.toNat < 120) (hne : pin ≠ pin') :
    lowRegister pin ≠ lowRegister pin' ∧ highRegister pin ≠ highRegister pin' := by
  have hne' : pin.toNat ≠ pin'.toNat := fun heq => hne (UInt32.toNat_inj.mp heq)
  constructor <;> intro heq <;> have := congrArg UInt8.toNat heq
  · rw [toNat_lowRegister h, toNat_lowRegister h'] at this
    omega
  · rw [toNat_highRegister h, toNat_highRegister h'] at this
    omega

/-- No register is the lower half of one pin and the upper half of another. -/
theorem lowRegister_ne_highRegister (h : pin.toNat < 120) (h' : pin'.toNat < 120) :
    lowRegister pin ≠ highRegister pin' := by
  intro heq
  have := congrArg UInt8.toNat heq
  rw [toNat_lowRegister h, toNat_highRegister h'] at this
  omega

/-- **The writes that set the entry of a pin**, the half with the mask bit last. -/
def pinWrites (pin : UInt32) (e : Redirection) : List WindowEvent :=
  [.write (highRegister pin) e.high, .write (lowRegister pin) e.low]

end IoApic

namespace RegisterFile

open IoApic

variable (f : RegisterFile) {pin pin' : UInt32} {r : UInt8} (e : Redirection) (v : UInt32)

/-- Half of a pin. -/
theorem entry_update_high (h : pin.toNat < 120) :
    entry (Function.update f (highRegister pin) v) pin = .ofHalves (f.entry pin).low v := by
  rw [entry, Function.update_self, Function.update_of_ne (lowRegister_ne_highRegister h h), entry,
    Redirection.low_ofHalves]

/-- A write to the lower register of a pin replaces that half of its entry and keeps the other. -/
theorem entry_update_low (h : pin.toNat < 120) :
    entry (Function.update f (lowRegister pin) v) pin = .ofHalves v (f.entry pin).high := by
  rw [entry, Function.update_self, Function.update_of_ne (lowRegister_ne_highRegister h h).symm,
    entry, Redirection.high_ofHalves]

/-- The registers of a pin do not belong to another one. -/
theorem entry_update_of_ne (h : pin.toNat < 120) (h' : pin'.toNat < 120) (hne : pin' ≠ pin) :
    entry (Function.update f (highRegister pin) v) pin' = f.entry pin'
      ∧ entry (Function.update f (lowRegister pin) v) pin' = f.entry pin' := by
  obtain ⟨hlow, hhigh⟩ := registers_ne h' h hne
  constructor
  · rw [entry, Function.update_of_ne hhigh,
      Function.update_of_ne (lowRegister_ne_highRegister h' h),
      entry]
  · rw [entry, Function.update_of_ne hlow,
      Function.update_of_ne (lowRegister_ne_highRegister h h').symm, entry]

/-- **A pin that is written holds what was written.** -/
theorem entry_after_pinWrites (h : pin.toNat < 120) :
    (f.after (pinWrites pin e)).entry pin = e := by
  rw [pinWrites, after_write, after_write, after_nil, entry_update_low _ _ h,
    entry_update_high _ _ h, Redirection.high_ofHalves, Redirection.ofHalves_low_high]

/-- **Other pins stay as they are.** -/
theorem entry_after_pinWrites_of_ne (h : pin.toNat < 120) (h' : pin'.toNat < 120)
    (hne : pin' ≠ pin) : (f.after (pinWrites pin e)).entry pin' = f.entry pin' := by
  rw [pinWrites, after_write, after_write, after_nil, (entry_update_of_ne _ _ h h' hne).2,
    (entry_update_of_ne _ _ h h' hne).1]

/-- **Other registers stay as they are.** -/
theorem after_pinWrites_of_ne (hlow : r ≠ lowRegister pin) (hhigh : r ≠ highRegister pin) :
    f.after (pinWrites pin e) r = f r := by
  rw [pinWrites, after_write, after_write, after_nil, Function.update_of_ne hlow,
    Function.update_of_ne hhigh]

end RegisterFile

namespace Wiring

variable {w : Wiring R σ} {s : σ}

/-- **Writing the entry of a pin.** -/
theorem runs_writePin (h : w.ready s) (pin : UInt32) (e : Redirection) :
    ∃ s', w.Runs (IoApic.writePin w.handle pin e) s () (IoApic.pinWrites pin e) s' := by
  obtain ⟨s₁, hhigh⟩ := runs_writeRegister h (IoApic.highRegister pin) e.high
  obtain ⟨s₂, hlow⟩ := runs_writeRegister hhigh.ready (IoApic.lowRegister pin) e.low
  exact hhigh.bind ⟨s₂, hlow⟩

end Wiring

end Interrupts
