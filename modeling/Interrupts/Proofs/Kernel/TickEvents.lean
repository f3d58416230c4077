import Interrupts.Irq.Dispatch
import Interrupts.Kernel.State

/-!
# Events of the tick, and what the hooks are told of them

As far as the time is concerned, two things happen to a kernel: a hook is set or cleared, and an
interrupt is delivered on some processor. A tick is a delivery of line 0 on the first processor,
and the hook in force is told its number. What the hooks are told of a history of events is
computed here from the events alone. No number is told twice, and while a hook stays set, it is
told all of them.
-/

namespace Interrupts

variable {X : Surroundings}

/-- **What happens, as far as the time is concerned.** -/
inductive TickEvent (X : Surroundings) where
  /-- A hook was set, or the hook was cleared. -/
  | hooked (hook : Option X.Hook)
  /-- A delivery was served on the processor at this position. The controller in charge named this
  line, or none. -/
  | delivered (index : Nat) (irq? : Option UInt8) (outcome : DispatchOutcome)

/-- The hook in force, if there is one, is given a number. -/
def tellings (hook : Option X.Hook) (now : UInt64) : List (X.Hook × UInt64) :=
  hook.toList.map (·, now)

namespace TickEvent

/-- **The position of the processor on which line 0 was delivered**, if this is what happened. A
controller may name the line without having it, and that is no delivery on it. -/
def timer? : TickEvent X → Option Nat
  | .hooked _ => none
  | .delivered index irq? outcome =>
    if irq? = some 0 ∧ outcome ≠ .outOfRange 0 then some index else none

/-- The event is a tick: line 0 was delivered on the first processor. -/
def IsTick (e : TickEvent X) : Prop :=
  e.timer? = some 0

instance (e : TickEvent X) : Decidable e.IsTick :=
  inferInstanceAs (Decidable (_ = _))

/-- A delivery of line 0 that the tick's handler claims. -/
theorem timer?_claimed {index : Nat} :
    (delivered index (some 0) (.handled 0) : TickEvent X).timer? = some index := by
  unfold timer?
  exact if_pos ⟨rfl, nofun⟩

theorem isTick_claimed {index : Nat} :
    (delivered index (some 0) (.handled 0) : TickEvent X).IsTick ↔ index = 0 := by
  rw [IsTick, timer?_claimed, Option.some.injEq]

/-- The count of ticks after the event. -/
def count (e : TickEvent X) (ticks : UInt64) : UInt64 :=
  if e.IsTick then ticks + 1 else ticks

/-- The hook in force after the event. -/
def hookAfter (hook : Option X.Hook) : TickEvent X → Option X.Hook
  | .hooked hook' => hook'
  | .delivered _ _ _ => hook

/-- **What a hook is told**: at a tick, the hook in force gets the new count. -/
def told (e : TickEvent X) (hook : Option X.Hook) (ticks : UInt64) : List (X.Hook × UInt64) :=
  if e.IsTick then tellings hook (ticks + 1) else []

end TickEvent

/-- The number of deliveries of line 0. -/
def timerDeliveries (events : List (TickEvent X)) : Nat :=
  events.countP fun e => e.timer?.isSome

/-- **The number of ticks.** -/
def ticksIn (events : List (TickEvent X)) : Nat :=
  events.countP fun e => e.IsTick

/-- The hook in force after some events. -/
def hookAfter (hook : Option X.Hook) (events : List (TickEvent X)) : Option X.Hook :=
  events.foldl TickEvent.hookAfter hook

/-- **What the hooks are told** of some events, in order. -/
def told (hook : Option X.Hook) (ticks : UInt64) : List (TickEvent X) → List (X.Hook × UInt64)
  | [] => []
  | e :: events => e.told hook ticks ++ told (e.hookAfter hook) (e.count ticks) events

section Telling

variable {hook : Option X.Hook} {ticks : UInt64} {events : List (TickEvent X)}

/-- The ticks of a list, counted from its head. -/
theorem ticksIn_cons (e : TickEvent X) (events : List (TickEvent X)) :
    ticksIn (e :: events) = ticksIn events + if e.IsTick then 1 else 0 := by
  unfold ticksIn
  rw [List.countP_cons]
  simp only [decide_eq_true_eq]

theorem timerDeliveries_cons (e : TickEvent X) (events : List (TickEvent X)) :
    timerDeliveries (e :: events)
      = timerDeliveries events + if e.timer?.isSome then 1 else 0 :=
  List.countP_cons

/-- The count after an event is the count at which the rest begins. -/
theorem TickEvent.count_add (e : TickEvent X) (events : List (TickEvent X)) (ticks : UInt64) :
    e.count ticks + UInt64.ofNat (ticksIn events)
      = ticks + UInt64.ofNat (ticksIn (e :: events)) := by
  unfold count
  rw [ticksIn_cons]
  by_cases htick : e.IsTick
  · rw [if_pos htick, if_pos htick, UInt64.ofNat_add, UInt64.add_comm (UInt64.ofNat _),
      ← UInt64.add_assoc]
    rfl
  · rw [if_neg htick, if_neg htick, Nat.add_zero]

/-- What is told in two stretches. -/
theorem told_append (events' : List (TickEvent X)) :
    told hook ticks (events ++ events') = told hook ticks events
      ++ told (hookAfter hook events) (ticks + UInt64.ofNat (ticksIn events)) events' := by
  induction events generalizing hook ticks with
  | nil => exact congrArg (told hook · events') (UInt64.add_zero ticks).symm
  | cons e events ih =>
    rw [List.cons_append, told, ih, told, e.count_add, List.append_assoc]
    rfl

/-- What is told is told of one tick after the other, and only of ticks that happen. -/
theorem told_numbers (hfit : ticks.toNat + ticksIn events < UInt64.size) :
    (told hook ticks events).Pairwise (fun p q => p.2 < q.2)
      ∧ ∀ p ∈ told hook ticks events, ticks < p.2 ∧ p.2.toNat ≤ ticks.toNat + ticksIn events := by
  induction events generalizing hook ticks with
  | nil => exact ⟨.nil, fun _ hp => absurd hp List.not_mem_nil⟩
  | cons e events ih =>
    rw [ticksIn_cons] at hfit
    rw [ticksIn_cons, told, TickEvent.told, TickEvent.count]
    by_cases htick : e.IsTick
    · rw [if_pos htick] at hfit
      rw [if_pos htick, if_pos htick, if_pos htick]
      -- The count does not run out, so that this tick comes before all that follow.
      have hnow : (ticks + 1).toNat = ticks.toNat + 1 := by
        rw [UInt64.toNat_add, UInt64.toNat_one, Nat.mod_eq_of_lt (by
          have : UInt64.size = 2 ^ 64 := rfl
          omega)]
      have hlt : ticks < ticks + 1 := UInt64.lt_iff_toNat_lt.mpr (by omega)
      obtain ⟨hpairs, hbounds⟩ := @ih (e.hookAfter hook) (ticks + 1) (by omega)
      refine ⟨List.pairwise_append.mpr ⟨?_, hpairs, ?_⟩, fun p hp => ?_⟩
      · cases hook with
        | none => exact .nil
        | some h => exact List.pairwise_singleton _ _
      · intro p hp q hq
        obtain ⟨_, -, rfl⟩ := List.mem_map.mp hp
        exact (hbounds q hq).1
      · rcases List.mem_append.mp hp with hp | hp
        · obtain ⟨_, -, rfl⟩ := List.mem_map.mp hp
          exact ⟨hlt, by dsimp only; omega⟩
        · obtain ⟨hlower, hupper⟩ := hbounds p hp
          exact ⟨UInt64.lt_trans hlt hlower, by omega⟩
    · rw [if_neg htick, Nat.add_zero] at hfit
      rw [if_neg htick, if_neg htick, if_neg htick, Nat.add_zero, List.nil_append]
      exact ih hfit

/-- **While a hook stays set, it is told of every tick.** -/
theorem told_of_steady {h : X.Hook} (hsteady : ∀ hook', .hooked hook' ∉ events) :
    told (some h) ticks events
      = (List.range (ticksIn events)).map fun i => (h, ticks + UInt64.ofNat (i + 1)) := by
  induction events generalizing ticks with
  | nil => rfl
  | cons e events ih =>
    have hrest := fun hook' hmem => hsteady hook' (List.mem_cons_of_mem e hmem)
    have hhook : e.hookAfter (some h) = some h := by
      cases e with
      | hooked hook' => exact absurd List.mem_cons_self (hsteady hook')
      | delivered index irq? outcome => rfl
    rw [told, hhook, ih hrest, ticksIn_cons, TickEvent.told, TickEvent.count]
    by_cases htick : e.IsTick
    · rw [if_pos htick, if_pos htick, if_pos htick, List.range_succ_eq_map, List.map_cons,
        List.map_map]
      refine congrArg (_ :: ·) (List.map_congr_left fun i _ => ?_)
      show (h, _) = (h, _)
      rw [UInt64.add_assoc, UInt64.ofNat_add (i + 1), UInt64.add_comm (UInt64.ofNat (i + 1))]
      rfl
    · rw [if_neg htick, if_neg htick, if_neg htick, Nat.add_zero, List.nil_append]

end Telling

end Interrupts
