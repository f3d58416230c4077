import Interrupts.Exception.Table

/-!
# What the slots of the exception table show

The table of exceptions is only ever changed one slot at a time: a handler is registered, in place
of the one before, or the slot is emptied. So what a table shows can be read off the changes that
were made to it, and only the last change of a vector counts: `Shows`.

Two lists of vectors matter to the rest. The *open* ones may be claimed by handlers. The others are
refused any change, so that in a table that began empty their slots stay empty for good.
-/

namespace Interrupts

/-! ## Vectors -/

namespace Vectors

/-- **The vectors that handlers may claim**: those of the exceptions, without the double fault, the
machine check and the reserved ones. -/
def IsOpen (v : UInt8) : Prop :=
  v.toNat < 32 ∧ v.toNat ≠ 8 ∧ v.toNat ≠ 15 ∧ v.toNat ≠ 18 ∧ ¬(21 ≤ v.toNat ∧ v.toNat ≤ 29)

instance (v : UInt8) : Decidable (IsOpen v) :=
  inferInstanceAs (Decidable (_ ∧ _))

theorem isAlwaysFatal_iff {v : UInt8} : isAlwaysFatal v = true ↔ v.toNat = 8 ∨ v.toNat = 18 := by
  rw [isAlwaysFatal, Bool.or_eq_true, beq_iff_eq, beq_iff_eq, ← UInt8.toNat_inj, ← UInt8.toNat_inj]
  rfl

/-- The reserved vectors, by their numbers. -/
theorem isReserved_iff {v : UInt8} :
    isReserved v = true ↔ v.toNat = 15 ∨ 21 ≤ v.toNat ∧ v.toNat ≤ 29 := by
  rw [isReserved, Bool.or_eq_true, Bool.and_eq_true, beq_iff_eq, decide_eq_true_eq,
    decide_eq_true_eq, ← UInt8.toNat_inj, UInt8.le_iff_toNat_le, UInt8.le_iff_toNat_le]
  rfl

/-- The open vectors are those of an exception that is neither always fatal nor reserved. -/
theorem isOpen_iff {v : UInt8} :
    IsOpen v ↔ v.toNat < 32 ∧ isAlwaysFatal v = false ∧ isReserved v = false := by
  rw [Bool.eq_false_iff, Bool.eq_false_iff, ne_eq, ne_eq, isAlwaysFatal_iff, isReserved_iff, IsOpen]
  omega

end Vectors

namespace ExceptionTable

open Vectors

/-- **Why a change of a vector's slot is refused.** -/
inductive Refuses (v : UInt8) : ExceptionError → Prop
  /-- There is no slot for the vector. -/
  | notAnException (outside : 32 ≤ v.toNat) : Refuses v (.notAnException v)
  /-- There is one, but it may not be changed. -/
  | critical (inside : v.toNat < 32) (closed : ¬IsOpen v) : Refuses v (.critical v)

/-- **A change is granted exactly for the open vectors**, and refused with a reason otherwise. -/
theorem checkVector_cases (v : UInt8) :
    (IsOpen v ∧ checkVector v = .ok ()) ∨ ∃ e, Refuses v e ∧ checkVector v = .error e := by
  unfold checkVector
  by_cases houtside : exceptionCount ≤ v.toNat
  · rw [if_pos houtside]
    exact .inr ⟨_, .notAnException houtside, rfl⟩
  · have hinside : v.toNat < 32 := Nat.lt_of_not_le houtside
    rw [if_neg houtside]
    by_cases hcritical : isAlwaysFatal v = true ∨ isReserved v = true
    · rw [if_pos hcritical]
      refine .inr ⟨_, .critical hinside fun hopen => ?_, rfl⟩
      obtain ⟨-, hfatal, hreserved⟩ := isOpen_iff.mp hopen
      exact hcritical.elim (Bool.eq_false_iff.mp hfatal) (Bool.eq_false_iff.mp hreserved)
    · rw [if_neg hcritical]
      rw [not_or, Bool.not_eq_true, Bool.not_eq_true] at hcritical
      exact .inl ⟨isOpen_iff.mpr ⟨hinside, hcritical⟩, rfl⟩

/-! ## Changes -/

variable {E : Type}

/-- **A change of a slot.** -/
inductive SlotChange (E : Type) where
  | install (v : UInt8) (handler : E)
  | remove (v : UInt8)

namespace SlotChange

/-- The vector whose slot is changed. -/
def vector : SlotChange E → UInt8
  | install v _ => v
  | remove v => v

/-- What the slot holds afterwards. -/
def slot : SlotChange E → Option E
  | install _ h => some h
  | remove _ => none

end SlotChange

/-- **The last change of a vector** among some changes. -/
def LastChange (changes : List (SlotChange E)) (v : UInt8) (c : SlotChange E) : Prop :=
  ∃ before after, changes = before ++ c :: after ∧ c.vector = v ∧ ∀ d ∈ after, d.vector ≠ v

/-- **The table shows what was changed**: a vector has a handler when its last change was to
register that handler. -/
def Shows (t : ExceptionTable E) (changes : List (SlotChange E)) : Prop :=
  ∀ v h, t.handler? v = some h ↔ LastChange changes v (.install v h)

theorem not_lastChange_nil {v : UInt8} {c : SlotChange E} : ¬LastChange [] v c := by
  rintro ⟨before, after, heq, -⟩
  exact List.append_ne_nil_of_right_ne_nil before (List.cons_ne_nil c after) heq.symm

/-- One more change is the last one of its vector, and leaves those of the others. -/
theorem lastChange_append_singleton {changes : List (SlotChange E)} {v : UInt8}
    {c d : SlotChange E} :
    LastChange (changes ++ [d]) v c
      ↔ (d.vector = v ∧ c = d) ∨ (d.vector ≠ v ∧ LastChange changes v c) := by
  constructor
  · rintro ⟨before, after, heq, hvector, hlater⟩
    -- Either the last change is the one that was added, or it comes before it.
    rcases List.eq_nil_or_concat after with rfl | ⟨after', d', rfl⟩
    · obtain ⟨-, hd⟩ := List.append_inj' heq rfl
      cases hd
      exact .inl ⟨hvector, rfl⟩
    · rw [List.concat_eq_append, ← List.cons_append, ← List.append_assoc] at heq
      obtain ⟨hchanges, hd⟩ := List.append_inj' heq rfl
      cases hd
      rw [List.concat_eq_append, List.forall_mem_append] at hlater
      exact .inr ⟨hlater.2 d (List.mem_singleton_self d), before, after', hchanges, hvector,
        hlater.1⟩
  · rintro (⟨hvector, rfl⟩ | ⟨hother, before, after, rfl, hvector, hlater⟩)
    · exact ⟨changes, [], rfl, hvector, fun _ h => absurd h List.not_mem_nil⟩
    · refine ⟨before, after ++ [d], by rw [List.append_assoc]; rfl, hvector, ?_⟩
      rw [List.forall_mem_append, List.forall_mem_singleton]
      exact ⟨hlater, hother⟩

/-- The last change of a slot is one of the changes, and of that slot. -/
theorem LastChange.mem {changes : List (SlotChange E)} {v : UInt8} {c : SlotChange E}
    (h : LastChange changes v c) : c ∈ changes ∧ c.vector = v := by
  obtain ⟨before, after, rfl, hvector, -⟩ := h
  exact ⟨List.mem_append_right before List.mem_cons_self, hvector⟩

/-! ## Slots -/

theorem handler?_empty (v : UInt8) : (empty : ExceptionTable E).handler? v = none := by
  unfold handler? empty
  rw [Vector.getElem?_replicate]
  split <;> rfl

/-- **A slot that is set holds what it was set to, and the others stay.** -/
theorem handler?_setSlot (t : ExceptionTable E) {v : UInt8} (h : v.toNat < 32) (slot : Option E)
    (v' : UInt8) : (t.setSlot v slot).handler? v' = if v = v' then slot else t.handler? v' := by
  unfold handler? setSlot
  rw [Vector.getElem?_setIfInBounds]
  by_cases heq : v = v'
  · subst heq
    rw [if_pos rfl, if_pos h, if_pos rfl]
    rfl
  · rw [if_neg fun hnat => heq (UInt8.toNat_inj.mp hnat), if_neg heq]

/-- Only exceptions have slots. -/
theorem lt_of_handler? {t : ExceptionTable E} {v : UInt8} {h : E} (hv : t.handler? v = some h) :
    v.toNat < 32 := by
  rcases Nat.lt_or_ge v.toNat 32 with hinside | houtside
  · exact hinside
  · rw [handler?, Vector.getElem?_eq_none houtside] at hv
    exact nomatch hv

theorem empty_shows : (empty : ExceptionTable E).Shows [] := by
  intro v h
  rw [handler?_empty]
  exact ⟨fun hsome => (nomatch hsome), fun hlast => absurd hlast not_lastChange_nil⟩

/-- **A change of a slot is shown.** -/
theorem Shows.setSlot {t : ExceptionTable E} {changes : List (SlotChange E)} (ht : t.Shows changes)
    (c : SlotChange E) (h : c.vector.toNat < 32) :
    (t.setSlot c.vector c.slot).Shows (changes ++ [c]) := by
  intro v h'
  rw [handler?_setSlot t h, lastChange_append_singleton]
  by_cases heq : c.vector = v
  · rw [if_pos heq]
    subst heq
    cases c with
    | install v h'' => simp [SlotChange.slot, SlotChange.vector, eq_comm]
    | remove v => simp [SlotChange.slot]
  · rw [if_neg heq, ht v h']
    exact ⟨fun hlast => .inr ⟨heq, hlast⟩,
      fun hor => hor.elim (fun hp => absurd hp.1 heq) And.right⟩

/-- A vector has a handler when the last change of its slot installed one. -/
theorem Shows.isRegistered_iff {t : ExceptionTable E} {changes : List (SlotChange E)}
    (ht : t.Shows changes) (v : UInt8) :
    t.isRegistered v = true ↔ ∃ h, LastChange changes v (.install v h) := by
  rw [isRegistered, Option.isSome_iff_exists]
  exact exists_congr (ht v)

/-- **Where only open vectors were changed, no other one has a handler.** -/
theorem Shows.isOpen {t : ExceptionTable E} {changes : List (SlotChange E)} (ht : t.Shows changes)
    (hopen : ∀ c ∈ changes, IsOpen c.vector) {v : UInt8} (hv : t.isRegistered v = true) :
    IsOpen v := by
  obtain ⟨h, hlast⟩ := (ht.isRegistered_iff v).mp hv
  obtain ⟨hmem, hvector⟩ := hlast.mem
  exact hvector ▸ hopen _ hmem

end ExceptionTable

end Interrupts
