import Interrupts.Irq.Registry
import Mathlib.Data.List.Nodup
import Mathlib.Logic.Function.Basic

/-!
# The chains of the registry, operation by operation

Whoever uses the registry sees it through the chains of its lines. This module says what each
operation does to them, once and for all: a counter or a report changes no chain, an installation
puts one handler in front of one chain, and a removal takes one handler out of one chain and keeps
the order of the others.

A chain is read with `chain`, which is empty for a line that the table does not have, and written
with `Function.update`. So the lemmas speak of all lines at once, and what happens on one of them
is seen not to touch the others.
-/

namespace Interrupts.Registry

variable {H : Type} (r : Registry H) {irq other : UInt8}

/-! ## Lines -/

theorem line?_of_lt (h : irq.toNat < lineCount) : ∃ l, r.line? irq = some l :=
  ⟨_, Vector.getElem?_eq_getElem h⟩

theorem line?_of_le (h : lineCount ≤ irq.toNat) : r.line? irq = none :=
  Vector.getElem?_eq_none h

/-- A change of one line shows on that line only. -/
theorem line?_modifyLine (f : IrqLine H → IrqLine H) :
    (r.modifyLine irq f).line? other
      = if other = irq then (r.line? irq).map f else r.line? other := by
  unfold modifyLine line?
  by_cases hlt : irq.toNat < 224
  · rw [dif_pos hlt]
    dsimp only
    rw [Vector.getElem?_set]
    by_cases heq : other = irq
    · rw [heq, if_pos rfl, if_pos rfl, Vector.getElem?_eq_getElem hlt]
      rfl
    · rw [if_neg heq, if_neg (fun h => heq (UInt8.toNat_inj.mp h.symm))]
  · rw [dif_neg hlt]
    by_cases heq : other = irq
    · rw [heq, if_pos rfl, Vector.getElem?_eq_none (Nat.le_of_not_lt hlt)]
      rfl
    · rw [if_neg heq]

@[simp] theorem nextId_modifyLine (f : IrqLine H → IrqLine H) :
    (r.modifyLine irq f).nextId = r.nextId := by
  unfold modifyLine
  split <;> rfl

/-! ## Chains -/

theorem chain_eq_getD : r.chain irq = ((r.line? irq).map IrqLine.chain).getD [] := by
  unfold chain
  cases r.line? irq <;> rfl

theorem chain_of_le (h : lineCount ≤ irq.toNat) : r.chain irq = [] := by
  rw [chain_eq_getD, line?_of_le r h]
  rfl

theorem chain_of_line? {l : IrqLine H} (h : r.line? irq = some l) : r.chain irq = l.chain := by
  rw [chain_eq_getD, h]
  rfl

@[simp] theorem chain_empty : (empty : Registry H).chain irq = [] := by
  rw [chain_eq_getD]
  unfold line? empty
  by_cases h : irq.toNat < 224
  · rw [Vector.getElem?_eq_getElem h, Vector.getElem_replicate]
    rfl
  · rw [Vector.getElem?_eq_none (Nat.le_of_not_lt h)]
    rfl

/-- A change of a line that keeps its chain keeps every chain. -/
theorem chain_modifyLine_of_chain (f : IrqLine H → IrqLine H) (hf : ∀ l, (f l).chain = l.chain) :
    (r.modifyLine irq f).chain = r.chain := by
  funext other
  rw [chain_eq_getD, chain_eq_getD, line?_modifyLine]
  split
  · rename_i heq
    rw [heq, Option.map_map]
    exact congrArg (fun g => ((r.line? irq).map g).getD []) (funext hf)
  · rfl

/-- A change of a line that gives it a chain changes no other chain. -/
theorem chain_modifyLine_of_line? (f : IrqLine H → IrqLine H) {l : IrqLine H}
    (hl : r.line? irq = some l) :
    (r.modifyLine irq f).chain = Function.update r.chain irq (f l).chain := by
  funext other
  rw [chain_eq_getD, line?_modifyLine]
  by_cases heq : other = irq
  · rw [heq, if_pos rfl, hl, Function.update_self]
    rfl
  · rw [if_neg heq, Function.update_of_ne heq, chain_eq_getD]

@[simp] theorem chain_countDelivery : (r.countDelivery irq).chain = r.chain :=
  r.chain_modifyLine_of_chain _ fun _ => rfl

@[simp] theorem chain_countUnhandled : (r.countUnhandled irq).chain = r.chain :=
  r.chain_modifyLine_of_chain _ fun _ => rfl

@[simp] theorem chain_rearm : (r.rearm irq).chain = r.chain :=
  r.chain_modifyLine_of_chain _ fun _ => rfl

@[simp] theorem nextId_countDelivery : (r.countDelivery irq).nextId = r.nextId :=
  r.nextId_modifyLine _

@[simp] theorem nextId_countUnhandled : (r.countUnhandled irq).nextId = r.nextId :=
  r.nextId_modifyLine _

@[simp] theorem nextId_rearm : (r.rearm irq).nextId = r.nextId :=
  r.nextId_modifyLine _

/-! ## Installation -/

/-- **A refused installation**: there is no such line, and nothing comes of the request. -/
theorem install_of_le (h : H) (cpu : Option Nat) (hle : lineCount ≤ irq.toNat) :
    r.install irq h cpu = .error (.invalidLine irq) := by
  unfold install
  rw [line?_of_le r hle]

/-- **An installation** uses up one identity and puts one handler in front of one chain. -/
theorem install_of_lt (h : H) (cpu : Option Nat) (hlt : irq.toNat < lineCount) :
    ∃ r', r.install irq h cpu = .ok (⟨r.nextId⟩, r')
      ∧ r'.nextId = r.nextId + 1
      ∧ r'.chain = Function.update r.chain irq (⟨⟨r.nextId⟩, cpu, h⟩ :: r.chain irq) := by
  obtain ⟨l, hl⟩ := r.line?_of_lt hlt
  refine ⟨_, by unfold install; rw [hl], rfl, ?_⟩
  rw [r.chain_of_line? hl]
  exact r.chain_modifyLine_of_line? _ hl

/-! ## Removal -/

/-- Nothing is unlinked when no entry of the chain has the identifier. -/
theorem unlink_eq_none_iff {id : HandlerId} {c : List (HandlerEntry H)} :
    unlink id c = none ↔ ∀ e ∈ c, e.id ≠ id := by
  induction c with
  | nil => exact ⟨fun _ _ he => absurd he List.not_mem_nil, fun _ => rfl⟩
  | cons e c ih =>
    unfold unlink
    by_cases he : e.id = id
    · rw [if_pos he]
      exact ⟨fun h => (nomatch h), fun h => absurd he (h e List.mem_cons_self)⟩
    · rw [if_neg he, Option.map_eq_none_iff, ih, List.forall_mem_cons]
      exact ⟨fun h => ⟨he, h⟩, fun h => h.2⟩

/-- Unlinking cuts out one handler of the identity, and keeps what stands before and after it. -/
theorem unlink_eq_some {id : HandlerId} {c rest : List (HandlerEntry H)} {e : HandlerEntry H}
    (h : unlink id c = some (e, rest)) :
    e.id = id ∧ ∃ before after, c = before ++ e :: after ∧ rest = before ++ after := by
  induction c generalizing rest with
  | nil => exact nomatch h
  | cons d c ih =>
    unfold unlink at h
    by_cases hd : d.id = id
    · rw [if_pos hd] at h
      obtain ⟨rfl, rfl⟩ := Prod.mk.inj (Option.some.inj h)
      exact ⟨hd, [], c, rfl, rfl⟩
    · rw [if_neg hd] at h
      obtain ⟨⟨e', rest'⟩, hfound, heq⟩ := Option.map_eq_some_iff.mp h
      obtain ⟨rfl, rfl⟩ := Prod.mk.inj heq
      obtain ⟨hid, before, after, hc, hrest⟩ := ih hfound
      exact ⟨hid, d :: before, after, congrArg (d :: ·) hc, congrArg (d :: ·) hrest⟩

/-- **A removal that is refused**: the line has no handler of the identity. -/
theorem remove_of_absent {id : HandlerId} (h : ∀ e ∈ r.chain irq, e.id ≠ id) :
    ∃ error, r.remove irq id = .error error := by
  unfold remove
  cases hl : r.line? irq with
  | none => exact ⟨_, rfl⟩
  | some l =>
    rw [r.chain_of_line? hl] at h
    dsimp only
    rw [unlink_eq_none_iff.mpr h]
    exact ⟨_, rfl⟩

/-- **A removal** hands back one handler of the identity and keeps the order of the others. -/
theorem remove_of_mem {id : HandlerId} {e : HandlerEntry H} (he : e ∈ r.chain irq)
    (hid : e.id = id) :
    ∃ before found after r', found.id = id ∧ r.chain irq = before ++ found :: after
      ∧ r.remove irq id = .ok (found.handler, r')
      ∧ r'.nextId = r.nextId
      ∧ r'.chain = Function.update r.chain irq (before ++ after) := by
  cases hl : r.line? irq with
  | none =>
    rw [chain_eq_getD, hl] at he
    exact absurd he List.not_mem_nil
  | some l =>
    have hchain := r.chain_of_line? hl
    cases hu : unlink id l.chain with
    -- the entry is on the chain, so the search finds one with its identifier
    | none => exact absurd hid (unlink_eq_none_iff.mp hu e (hchain ▸ he))
    | some found =>
      obtain ⟨hfid, before, after, hc, hrest⟩ := unlink_eq_some hu
      have hremove : r.remove irq id
          = .ok (found.1.handler, r.modifyLine irq fun l => { l with chain := found.2 }) := by
        unfold remove
        rw [hl]
        dsimp only
        rw [hu]
      refine ⟨before, found.1, after, _, hfid, hchain.trans hc, hremove,
        r.nextId_modifyLine _, ?_⟩
      rw [← hrest]
      exact r.chain_modifyLine_of_line? _ hl

end Interrupts.Registry
