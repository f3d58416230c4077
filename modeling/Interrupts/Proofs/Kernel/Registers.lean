import Interrupts.Proofs.IoApic.Probing
import Interrupts.Proofs.Kernel.Deeds
import Interrupts.Proofs.Pic.Chips
import Mathlib.Data.List.Basic

/-!
# What registers hold after the kernel's deeds

A plain register holds what was stored in it last. The window of an I/O APIC holds what was written
through it: a store to its first register selects what a store to its second one is for. Both can be
told from the events alone, and so can the state of the 8259 chips; only deeds matter for that, and
of these only those that concern the device.
-/

namespace Interrupts

open Sim (WindowEvent)

/-- Steps that change nothing can be left out. -/
theorem foldl_filter_of_ignored {α β : Type} {step : β → α → β} {p : α → Bool}
    (h : ∀ b a, p a = false → step b a = b) (l : List α) (b : β) :
    (l.filter p).foldl step b = l.foldl step b := by
  induction l generalizing b with
  | nil => rfl
  | cons a l ih =>
    cases ha : p a with
    | true => rw [List.filter_cons_of_pos ha, List.foldl_cons, List.foldl_cons, ih]
    | false =>
      rw [List.filter_cons_of_neg (by rw [ha]; exact Bool.false_ne_true), List.foldl_cons, ih,
        h b a ha]

/-- Nor does it matter how many of them there are. -/
theorem foldl_of_ignored {α β : Type} {step : β → α → β} {l : List α}
    (h : ∀ a ∈ l, ∀ b, step b a = b) (b : β) : l.foldl step b = b := by
  induction l with
  | nil => rfl
  | cons a l ih =>
    obtain ⟨ha, hl⟩ := List.forall_mem_cons.mp h
    rw [List.foldl_cons, ha, ih hl]

variable {events events' : List HardwareEvent}

/-! ## Plain registers -/

/-- What the event stores at an address. -/
def HardwareEvent.storedAt? (address : UInt64) : HardwareEvent → Option UInt32
  | .store address' value => if address' = address then some value else none
  | .out _ _ => none
  | .served _ => none

/-- **What was stored last at an address**, if anything was. -/
def lastStored (address : UInt64) (events : List HardwareEvent) : Option UInt32 :=
  (events.filterMap (HardwareEvent.storedAt? address)).getLast?

/-- The last word stored is that of the later events, if they store one. -/
theorem lastStored_append (address : UInt64) :
    lastStored address (events ++ events')
      = (lastStored address events').or (lastStored address events) := by
  unfold lastStored
  rw [List.filterMap_append, List.getLast?_append]

/-- Stores to other addresses leave a register with what it had. -/
theorem lastStored_of_elsewhere {address : UInt64} (h : ∀ value, .store address value ∉ events) :
    lastStored address events = none := by
  unfold lastStored
  rw [List.getLast?_eq_none_iff, List.filterMap_eq_nil_iff]
  intro e he
  cases e with
  | store address' value =>
    refine if_neg fun heq => h value ?_
    rwa [← heq]
  | out port value => rfl
  | served irq => rfl

/-- **Nothing is stored** in any register. -/
def StoresNothing (events : List HardwareEvent) : Prop :=
  ∀ address value, .store address value ∉ events

theorem StoresNothing.append (h : StoresNothing events) (h' : StoresNothing events') :
    StoresNothing (events ++ events') := fun address value he =>
  (List.mem_append.mp he).elim (h address value) (h' address value)

theorem StoresNothing.of_deeds (h : StoresNothing (events.filter HardwareEvent.isDeed)) :
    StoresNothing events := fun address value he =>
  h address value (List.mem_filter.mpr ⟨he, rfl⟩)

/-- **Words are stored**, and nothing else is done. -/
def StoresOnly (events : List HardwareEvent) : Prop :=
  ∀ e ∈ events, ∃ address value, e = .store address value

/-- Every store is a deed, so the deeds alone tell what was stored last. -/
theorem lastStored_deeds (address : UInt64) (events : List HardwareEvent) :
    lastStored address (events.filter HardwareEvent.isDeed) = lastStored address events := by
  unfold lastStored
  rw [List.filterMap_filter]
  refine congrArg List.getLast? (List.filterMap_congr fun e _ => ?_)
  cases e with
  | store address' value => rfl
  | out port value => exact ite_self _
  | served irq => rfl

/-! ## The window of an I/O APIC -/

/-- What the window at an address makes of an event, with this register selected and these contents
of all of them. -/
def windowStep (base : UInt64) (held : UInt8 × RegisterFile) :
    HardwareEvent → UInt8 × RegisterFile
  | .store address value =>
    if address = base + IoApic.selectOffset then (value.toUInt8, held.2)
    else if address = base + IoApic.dataOffset then (held.1, Function.update held.2 held.1 value)
    else held
  | .out _ _ => held
  | .served _ => held

/-- **What the window at an address holds after a number of events.** -/
def windowAfter (base : UInt64) (held : UInt8 × RegisterFile) (events : List HardwareEvent) :
    UInt8 × RegisterFile :=
  events.foldl (windowStep base) held

variable {base : UInt64} (held : UInt8 × RegisterFile)

theorem windowAfter_append :
    windowAfter base held (events ++ events')
      = windowAfter base (windowAfter base held events) events' :=
  List.foldl_append

/-- For the same reason, they tell what the registers behind a window hold. -/
theorem windowAfter_deeds (events : List HardwareEvent) :
    windowAfter base held (events.filter HardwareEvent.isDeed) = windowAfter base held events := by
  refine foldl_filter_of_ignored (fun held e he => ?_) events held
  cases e with
  | store address value => cases he
  | out port value => rfl
  | served irq => rfl

/-- Events that do not concern the window do not change it. -/
theorem windowAfter_of_elsewhere
    (h : ∀ address value, .store address value ∈ events →
      address ≠ base + IoApic.selectOffset ∧ address ≠ base + IoApic.dataOffset) :
    windowAfter base held events = held := by
  refine foldl_of_ignored (fun e he held => ?_) held
  cases e with
  | store address value =>
    obtain ⟨hselect, hdata⟩ := h address value he
    exact (if_neg hselect).trans (if_neg hdata)
  | out port value => rfl
  | served irq => rfl

/-- **The stores that make an access** to a register behind the window. -/
def IoApic.accessStores (w : Window) : WindowEvent → List HardwareEvent
  | .read r _ => [.store (w.virtBase + selectOffset) r.toUInt32]
  | .write r v =>
    [.store (w.virtBase + selectOffset) r.toUInt32, .store (w.virtBase + dataOffset) v]

theorem windowStep_select (value : UInt32) :
    windowStep base held (.store (base + IoApic.selectOffset) value) = (value.toUInt8, held.2) :=
  if_pos rfl

/-- A store to the data of a window goes to the register that is selected. -/
theorem windowStep_data (value : UInt32) :
    windowStep base held (.store (base + IoApic.dataOffset) value)
      = (held.1, Function.update held.2 held.1 value) := by
  have hne : base + IoApic.dataOffset ≠ base + IoApic.selectOffset := fun h =>
    absurd ((UInt64.add_right_inj _).mp h) (by decide)
  exact (if_neg hne).trans (if_pos rfl)

/-- Accesses to registers behind a window are stores, and nothing else. -/
theorem storesOnly_accessStores (w : Window) (es : List WindowEvent) :
    StoresOnly (es.flatMap (IoApic.accessStores w)) := by
  intro e he
  obtain ⟨access, -, he⟩ := List.mem_flatMap.mp he
  cases access with
  | read r v => exact ⟨_, _, List.mem_singleton.mp he⟩
  | write r v =>
    rcases List.mem_cons.mp he with rfl | he
    · exact ⟨_, _, rfl⟩
    · exact ⟨_, _, List.mem_singleton.mp he⟩

/-- Accesses do to the window what they are meant to do to the registers. -/
theorem windowAfter_accessStores (w : Window) (es : List WindowEvent) :
    (windowAfter w.virtBase held (es.flatMap (IoApic.accessStores w))).2 = held.2.after es := by
  induction es generalizing held with
  | nil => rfl
  | cons e es ih =>
    rw [List.flatMap_cons, windowAfter_append, ih]
    cases e with
    | read r v =>
      have hstep : windowAfter w.virtBase held (IoApic.accessStores w (.read r v))
          = (r.toUInt32.toUInt8, held.2) :=
        windowStep_select held _
      rw [hstep, RegisterFile.after_read]
    | write r v =>
      have hstep : windowAfter w.virtBase held (IoApic.accessStores w (.write r v))
          = (r.toUInt32.toUInt8, Function.update held.2 r.toUInt32.toUInt8 v) := by
        rw [← windowStep_data (r.toUInt32.toUInt8, held.2), ← windowStep_select held]
        rfl
      rw [hstep, RegisterFile.after_write, UInt8.toUInt8_toUInt32]

/-! ## The 8259 chips -/

namespace Chips

variable (c : Chips)

/-- The bytes that reach the chips are deeds. -/
theorem after_deeds (events : List HardwareEvent) :
    c.after (events.filter HardwareEvent.isDeed) = c.after events := by
  refine foldl_filter_of_ignored (fun c e he => ?_) events c
  cases e with
  | store address value => rfl
  | served irq => rfl
  | out port value =>
    have hports : port ∉ [Pic.masterCommand, Pic.masterData, Pic.slaveCommand, Pic.slaveData] :=
      of_decide_eq_false he
    simp only [List.mem_cons, List.not_mem_nil, or_false, not_or] at hports
    obtain ⟨h₁, h₂, h₃, h₄⟩ := hports
    exact (if_neg h₁).trans ((if_neg h₂).trans ((if_neg h₃).trans (if_neg h₄)))

/-- Stores do not concern the chips. -/
theorem after_of_storesOnly (h : StoresOnly events) : c.after events = c := by
  refine foldl_of_ignored (fun e he c => ?_) c
  obtain ⟨address, value, rfl⟩ := h e he
  rfl

end Chips

end Interrupts
