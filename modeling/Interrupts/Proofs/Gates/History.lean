import Mathlib.Data.List.Induction
import Interrupts.Proofs.Gates.Entry

/-!
# The descriptor table as a map from vectors to gates

The table is used by a sequence of requests: gates are opened, closed and given an interrupt stack,
and some requests are refused. What is left of a gate can be told from the requests alone:
`IsGateAfter` looks for the last one that opened or closed it, and for the stacks that were chosen
for it since.

The entries themselves remember more than that. A stack that is chosen for a closed gate stays in
the entry, where nobody sees it. But what a request makes of a gate depends on what the entry means
and on nothing else (`gate_apply`), so that what is hidden stays hidden.
-/

namespace Interrupts

/-! ## Requests -/

/-- **A request to the table of gates.** -/
inductive GateRequest where
  | set (vector : UInt8) (target : UInt64) (selector : Selector) (kind : GateKind)
    (privilege : Ring) (present : Bool)
  | openInterrupt (vector : UInt8) (target : UInt64)
  | openTrap (vector : UInt8) (target : UInt64)
  | close (vector : UInt8)
  | setIst (vector index : UInt8)
  deriving DecidableEq, Repr

namespace GateRequest

/-- The vector whose gate is meant. -/
def vector : GateRequest → UInt8
  | set v _ _ _ _ _ => v
  | openInterrupt v _ => v
  | openTrap v _ => v
  | close v => v
  | setIst v _ => v

/-- **The gate that a request opens**, if it opens one. It begins on the current stack. -/
def opened? : GateRequest → Option Gate
  | set _ target selector kind privilege present =>
    some { target, selector, kind, privilege, present, ist := 0 }
  | openInterrupt _ target =>
    some { target, selector := .kernelCode, kind := .interrupt, privilege := .ring0,
           present := true, ist := 0 }
  | openTrap _ target =>
    some { target, selector := .kernelCode, kind := .trap, privilege := .ring0,
           present := true, ist := 0 }
  | close _ => none
  | setIst _ _ => none

/-- **The request closes its gate.** The gates of exceptions cannot be closed. -/
def Closes : GateRequest → Prop
  | close v => 32 ≤ v.toNat
  | _ => False

instance : DecidablePred Closes
  | set _ _ _ _ _ _ => inferInstanceAs (Decidable False)
  | openInterrupt _ _ => inferInstanceAs (Decidable False)
  | openTrap _ _ => inferInstanceAs (Decidable False)
  | close v => inferInstanceAs (Decidable (32 ≤ v.toNat))
  | setIst _ _ => inferInstanceAs (Decidable False)

/-- **The stack that a request chooses**, if there is one of that index. -/
def index? : GateRequest → Option UInt8
  | setIst _ index => if index ≤ 7 then some index else none
  | _ => none

/-- **What a request makes of its gate.** -/
def effect (r : GateRequest) (gate : Option Gate) : Option Gate :=
  match r.opened? with
  | some g => some g
  | none =>
    if r.Closes then none
    else
      match r.index? with
      | some index => gate.map fun g => { g with ist := index }
      | none => gate

variable {r : GateRequest}

theorem effect_of_opened {g : Gate} (h : r.opened? = some g) (gate : Option Gate) :
    r.effect gate = some g := by
  rw [effect, h]

/-- A gate that was just opened uses no stack of the table. -/
theorem ist_of_opened {g : Gate} (h : r.opened? = some g) : g.ist = 0 := by
  cases r with
  | set => exact (Option.some.inj h) ▸ rfl
  | openInterrupt => exact (Option.some.inj h) ▸ rfl
  | openTrap => exact (Option.some.inj h) ▸ rfl
  | close => exact (Option.some_ne_none g h.symm).elim
  | setIst => exact (Option.some_ne_none g h.symm).elim

/-- A request that closes leaves no gate. -/
theorem effect_of_closes (h : r.Closes) (gate : Option Gate) : r.effect gate = none := by
  cases r with
  | close v => exact if_pos h
  | set => exact h.elim
  | openInterrupt => exact h.elim
  | openTrap => exact h.elim
  | setIst => exact h.elim

/-- Only gates above those of the exceptions are closed. -/
theorem le_of_closes (h : r.Closes) : 32 ≤ r.vector.toNat := by
  cases r with
  | close v => exact h
  | set => exact h.elim
  | openInterrupt => exact h.elim
  | openTrap => exact h.elim
  | setIst => exact h.elim

/-- A request for a stack gives it to the gate, if there is one. -/
theorem effect_of_index {index : UInt8} (hopened : r.opened? = none) (hcloses : ¬r.Closes)
    (hindex : r.index? = some index) (gate : Option Gate) :
    r.effect gate = gate.map fun g => { g with ist := index } := by
  rw [effect, hopened, hindex]
  exact if_neg hcloses

/-- A request that opens nothing, closes nothing and names no stack leaves a gate alone. -/
theorem effect_of_idle (hopened : r.opened? = none) (hcloses : ¬r.Closes)
    (hindex : r.index? = none) (gate : Option Gate) : r.effect gate = gate := by
  rw [effect, hopened, hindex]
  exact if_neg hcloses

/-- No gate comes from none but by opening one. -/
theorem effect_none (h : r.opened? = none) : r.effect none = none := by
  by_cases hcloses : r.Closes
  · exact effect_of_closes hcloses none
  · cases hindex : r.index? with
    | some index => rw [effect_of_index h hcloses hindex, Option.map_none]
    | none => exact effect_of_idle h hcloses hindex none

/-- A request that opens a gate, or does not close it, leaves a gate where there was one. -/
theorem effect_ne_none (hcloses : ¬r.Closes) {gate : Option Gate}
    (h : r.opened? ≠ none ∨ gate ≠ none) : r.effect gate ≠ none := by
  cases hopened : r.opened? with
  | some g =>
    rw [effect_of_opened hopened]
    exact Option.some_ne_none g
  | none =>
    have hgate : gate ≠ none := h.resolve_left fun hne => hne hopened
    cases hindex : r.index? with
    | some index =>
      rw [effect_of_index hopened hcloses hindex, ne_eq, Option.map_eq_none_iff]
      exact hgate
    | none =>
      rw [effect_of_idle hopened hcloses hindex]
      exact hgate

end GateRequest

/-! ## Carrying out requests -/

namespace GateTable

variable (t : GateTable)

/-- **Carry out a request**, or refuse it. -/
def answer : GateRequest → Except GateRefusal GateTable
  | .set v target selector kind privilege present =>
    .ok (t.setGate v target selector kind privilege present)
  | .openInterrupt v target => .ok (t.openInterrupt v target)
  | .openTrap v target => .ok (t.openTrap v target)
  | .close v => t.close v
  | .setIst v index => t.setIst v index

/-- The table after a request; when it is refused, the table as it was. -/
def apply (r : GateRequest) : GateTable :=
  match t.answer r with
  | .ok t' => t'
  | .error _ => t

/-- **The table after some requests.** -/
def run (requests : List GateRequest) : GateTable :=
  requests.foldl apply t

theorem run_append (requests later : List GateRequest) :
    t.run (requests ++ later) = (t.run requests).run later :=
  List.foldl_append

theorem run_concat (requests : List GateRequest) (r : GateRequest) :
    t.run (requests ++ [r]) = (t.run requests).apply r :=
  run_append t requests [r]

theorem apply_of_ok {r : GateRequest} {t' : GateTable} (h : t.answer r = .ok t') :
    t.apply r = t' := by
  rw [apply, h]

theorem apply_of_error {r : GateRequest} {refusal : GateRefusal}
    (h : t.answer r = .error refusal) : t.apply r = t := by
  rw [apply, h]

/-- A request to close the gate of an exception is refused, and changes nothing. -/
theorem apply_close_of_exception {v : UInt8} (h : v.toNat < 32) : t.apply (.close v) = t :=
  apply_of_error t (if_pos h)

/-- So is the choice of a stack that does not exist. -/
theorem apply_setIst_of_lt (v : UInt8) {index : UInt8} (h : 7 < index) :
    t.apply (.setIst v index) = t :=
  apply_of_error t (if_pos h)

theorem apply_close_of_le {v : UInt8} (h : 32 ≤ v.toNat) :
    t.apply (.close v) = t.setEntry v .zero :=
  apply_of_ok t (if_neg (Nat.not_lt_of_le h))

theorem apply_setIst_of_le (v : UInt8) {index : UInt8} (h : index ≤ 7) :
    t.apply (.setIst v index) = t.setEntry v ((t.entry v).withIst index) :=
  apply_of_ok t (if_neg (UInt8.not_lt.mpr h))

theorem gate_empty (v : UInt8) : empty.gate v = none := by
  have hentry : empty.entry v = .zero := Vector.getElem_replicate v.toNat_lt
  rw [gate, hentry, GateEntry.decode_zero]

/-- Replacing the entry of a vector changes its gate only. -/
theorem gate_setEntry (v : UInt8) (e : GateEntry) (w : UInt8) :
    (t.setEntry v e).gate w = if v = w then e.decode else t.gate w := by
  unfold gate
  by_cases h : v = w
  · subst h
    rw [if_pos rfl, entry_setEntry_self]
  · rw [if_neg h, entry_setEntry_of_ne t e fun heq => h heq.symm]

/-- **What a request does to the gates.** Of its own gate it makes what `effect` says, going by what
the entry means alone; the others it leaves. -/
theorem gate_apply (r : GateRequest) (v : UInt8) :
    (t.apply r).gate v = if r.vector = v then r.effect (t.gate v) else t.gate v := by
  cases r with
  | set w target selector kind privilege present =>
    exact (gate_setEntry t w _ v).trans (by rw [GateEntry.decode_new]; rfl)
  | openInterrupt w target =>
    exact (gate_setEntry t w _ v).trans (by rw [GateEntry.decode_new]; rfl)
  | openTrap w target =>
    exact (gate_setEntry t w _ v).trans (by rw [GateEntry.decode_new]; rfl)
  | close w =>
    -- The gates of exceptions cannot be closed.
    rcases Nat.lt_or_ge w.toNat 32 with hlt | hge
    · rw [apply_close_of_exception t hlt,
        GateRequest.effect_of_idle (r := .close w) rfl (Nat.not_le_of_lt hlt) rfl, ite_self]
    · rw [apply_close_of_le t hge, gate_setEntry, GateEntry.decode_zero,
        GateRequest.effect_of_closes (r := .close w) hge]
      rfl
  | setIst w index =>
    rcases UInt8.lt_or_le 7 index with hlt | hle
    · rw [apply_setIst_of_lt t w hlt,
        GateRequest.effect_of_idle (r := .setIst w index) rfl not_false
          (if_neg (UInt8.not_le.mpr hlt)), ite_self]
    · rw [apply_setIst_of_le t w hle, gate_setEntry, GateEntry.decode_withIst _ hle,
        GateRequest.effect_of_index (r := .setIst w index) rfl not_false (if_pos hle)]
      by_cases h : w = v
      · subst h
        rfl
      · rw [if_neg h]
        exact (if_neg h).symm

theorem gate_apply_self {r : GateRequest} {v : UInt8} (h : r.vector = v) :
    (t.apply r).gate v = r.effect (t.gate v) := by
  rw [gate_apply, if_pos h]

theorem gate_apply_of_ne {r : GateRequest} {v : UInt8} (h : r.vector ≠ v) :
    (t.apply r).gate v = t.gate v := by
  rw [gate_apply, if_neg h]

/-- **Tables with the same gates** have the same gates after the same requests. -/
theorem gate_run_congr {t t' : GateTable} (h : ∀ v, t.gate v = t'.gate v)
    (requests : List GateRequest) (v : UInt8) :
    (t.run requests).gate v = (t'.run requests).gate v := by
  induction requests generalizing t t' with
  | nil => exact h v
  | cons r requests ih => exact ih fun w => by rw [gate_apply, gate_apply, h w]

/-! ## What history makes of a gate -/

/-- The stack that was chosen last for a vector. -/
def chosenStack (requests : List GateRequest) (v : UInt8) : UInt8 :=
  ((requests.filterMap fun r => if r.vector = v then r.index? else none).getLast?).getD 0

/-- **What some requests leave of the gate of a vector** in a table that was empty before. -/
inductive IsGateAfter (requests : List GateRequest) (v : UInt8) : Option Gate → Prop
  /-- It was never opened. -/
  | unopened (never : ∀ r ∈ requests, r.vector = v → r.opened? = none) :
    IsGateAfter requests v none
  /-- It was opened and not closed since, and has the stack that was chosen last since then. -/
  | opened {before after : List GateRequest} {r : GateRequest} {g : Gate}
    (split : requests = before ++ r :: after) (own : r.vector = v) (opens : r.opened? = some g)
    (last : ∀ q ∈ after, q.vector = v → q.opened? = none ∧ ¬q.Closes) :
    IsGateAfter requests v (some { g with ist := chosenStack after v })
  /-- It was closed and not opened since. -/
  | closed {before after : List GateRequest} {r : GateRequest}
    (split : requests = before ++ r :: after) (own : r.vector = v) (closes : r.Closes)
    (last : ∀ q ∈ after, q.vector = v → q.opened? = none) : IsGateAfter requests v none

variable {t} {requests later : List GateRequest} {v : UInt8}

theorem chosenStack_concat_of_ne {r : GateRequest} (h : r.vector ≠ v) :
    chosenStack (requests ++ [r]) v = chosenStack requests v := by
  unfold chosenStack
  rw [List.filterMap_append, List.filterMap_cons, if_neg h, List.filterMap_nil, List.append_nil]

/-- The stack that was chosen last is the one that the last request names, or else the one before
it. -/
theorem chosenStack_concat_self {r : GateRequest} (h : r.vector = v) :
    chosenStack (requests ++ [r]) v = r.index?.getD (chosenStack requests v) := by
  unfold chosenStack
  rw [List.filterMap_append, List.filterMap_cons, if_pos h, List.filterMap_nil]
  cases r.index? with
  | none => rw [List.append_nil, Option.getD_none]
  | some index => rw [List.getLast?_concat, Option.getD_some, Option.getD_some]

/-- An open gate that is neither opened anew nor closed only gets the stacks that are chosen. -/
theorem gate_run_of_open {g : Gate} (hgate : t.gate v = some { g with ist := 0 })
    (h : ∀ r ∈ requests, r.vector = v → r.opened? = none ∧ ¬r.Closes) :
    (t.run requests).gate v = some { g with ist := chosenStack requests v } := by
  induction requests using List.reverseRecOn with
  | nil => exact hgate
  | append_singleton requests r ih =>
    have hbefore := ih fun q hq => h q (List.mem_append_left _ hq)
    rw [run_concat]
    by_cases hown : r.vector = v
    · obtain ⟨hopened, hcloses⟩ := h r (List.mem_append_right _ (List.mem_singleton_self r)) hown
      rw [gate_apply_self _ hown, hbefore, chosenStack_concat_self hown]
      cases hindex : r.index? with
      | some index => exact GateRequest.effect_of_index hopened hcloses hindex _
      | none => exact GateRequest.effect_of_idle hopened hcloses hindex _
    · rw [gate_apply_of_ne _ hown, hbefore, chosenStack_concat_of_ne hown]

/-- A closed gate that is not opened stays closed. -/
theorem gate_run_of_closed (hgate : t.gate v = none)
    (h : ∀ r ∈ requests, r.vector = v → r.opened? = none) : (t.run requests).gate v = none := by
  induction requests generalizing t with
  | nil => exact hgate
  | cons r requests ih =>
    refine ih ?_ fun q hq => h q (List.mem_cons_of_mem r hq)
    by_cases hown : r.vector = v
    · rw [gate_apply_self t hown, hgate, GateRequest.effect_none (h r List.mem_cons_self hown)]
    · rw [gate_apply_of_ne t hown, hgate]

/-- A gate that is not closed stays open, whatever stacks are chosen and however often it is opened
anew. -/
theorem gate_run_ne_none (hcloses : ∀ r ∈ requests, r.vector = v → ¬r.Closes)
    (h : t.gate v ≠ none ∨ ∃ r ∈ requests, r.vector = v ∧ r.opened? ≠ none) :
    (t.run requests).gate v ≠ none := by
  induction requests generalizing t with
  | nil => exact h.resolve_right fun ⟨_, hr, _⟩ => List.not_mem_nil hr
  | cons r requests ih =>
    refine ih (fun q hq => hcloses q (List.mem_cons_of_mem r hq)) ?_
    -- Either the gate is there by now, and stays, or one of the requests to come opens it.
    by_cases hown : r.vector = v
    · rw [gate_apply_self t hown]
      rcases h with hgate | ⟨q, hq, hqv, hopened⟩
      · exact .inl (GateRequest.effect_ne_none (hcloses r List.mem_cons_self hown) (.inr hgate))
      · rcases List.mem_cons.mp hq with rfl | hq
        · exact .inl (GateRequest.effect_ne_none (hcloses q List.mem_cons_self hown)
            (.inl hopened))
        · exact .inr ⟨q, hq, hqv, hopened⟩
    · rw [gate_apply_of_ne t hown]
      refine h.imp_right fun ⟨q, hq, hqv, hopened⟩ => ⟨q, ?_, hqv, hopened⟩
      rcases List.mem_cons.mp hq with rfl | hq
      · exact absurd hqv hown
      · exact hq

theorem run_cons_append {before after : List GateRequest} (r : GateRequest) :
    t.run (before ++ r :: after) = ((t.run before).apply r).run after :=
  run_append t before (r :: after)

/-- **The table has the gate that history makes.** -/
theorem IsGateAfter.gate_eq {gate : Option Gate} (h : IsGateAfter requests v gate) :
    (empty.run requests).gate v = gate := by
  cases h with
  | unopened never => exact gate_run_of_closed (gate_empty v) never
  | opened split own opens last =>
    rw [split, run_cons_append]
    refine gate_run_of_open ?_ last
    rw [gate_apply_self _ own, GateRequest.effect_of_opened opens,
      ← GateRequest.ist_of_opened opens]
  | closed split own closes last =>
    rw [split, run_cons_append]
    refine gate_run_of_closed ?_ last
    rw [gate_apply_self _ own, GateRequest.effect_of_closes closes]

/-- A history goes on with any request that neither opens nor closes the gate. -/
theorem IsGateAfter.concat {gate : Option Gate} (h : IsGateAfter requests v gate)
    {r : GateRequest} (hr : r.vector = v → r.opened? = none ∧ ¬r.Closes) :
    ∃ gate', IsGateAfter (requests ++ [r]) v gate' := by
  have hlast {p : GateRequest → Prop} {after : List GateRequest} (hafter : ∀ q ∈ after, p q)
      (hp : p r) : ∀ q ∈ after ++ [r], p q :=
    List.forall_mem_append.mpr ⟨hafter, List.forall_mem_singleton.mpr hp⟩
  cases h with
  | unopened never => exact ⟨_, .unopened (hlast never fun h => (hr h).1)⟩
  | opened split own opens last =>
    exact ⟨_, .opened (by rw [split, List.append_assoc, List.cons_append]) own opens
      (hlast last hr)⟩
  | closed split own closes last =>
    exact ⟨_, .closed (by rw [split, List.append_assoc, List.cons_append]) own closes
      (hlast last fun h => (hr h).1)⟩

/-- Every history leaves something of a gate. -/
theorem exists_isGateAfter (requests : List GateRequest) (v : UInt8) :
    ∃ gate, IsGateAfter requests v gate := by
  induction requests using List.reverseRecOn with
  | nil => exact ⟨none, .unopened fun r hr => absurd hr List.not_mem_nil⟩
  | append_singleton requests r ih =>
    by_cases hown : r.vector = v
    · cases hopened : r.opened? with
      | some g => exact ⟨_, .opened rfl hown hopened fun q hq => absurd hq List.not_mem_nil⟩
      | none =>
        by_cases hcloses : r.Closes
        · exact ⟨_, .closed rfl hown hcloses fun q hq => absurd hq List.not_mem_nil⟩
        · obtain ⟨gate, h⟩ := ih
          exact h.concat fun _ => ⟨hopened, hcloses⟩
    · obtain ⟨gate, h⟩ := ih
      exact h.concat fun heq => absurd heq hown

/-- **The table is a map from vectors to gates.** After any requests, a vector has the gate that was
opened last for it, with the stack that was chosen last since, and none if it was never opened or
was closed since. So the gate of an exception stays open once it is, what is refused changes
nothing, a stack that is chosen for a closed gate is never seen, and no request reaches the gate of
another vector. -/
theorem run_isGateMap (requests : List GateRequest) (v : UInt8) :
    (∀ gate, (empty.run requests).gate v = gate ↔ IsGateAfter requests v gate)
      ∧ (v.toNat < 32 → (∃ r ∈ requests, r.vector = v ∧ r.opened? ≠ none) →
          (empty.run requests).gate v ≠ none)
      ∧ (∀ w, w.toNat < 32 →
          (empty.run requests).answer (.close w) = .error (.exceptionVector w)
            ∧ empty.run (requests ++ [.close w]) = empty.run requests)
      ∧ (∀ w index, 7 < index →
          (empty.run requests).answer (.setIst w index) = .error (.istIndex w index)
            ∧ empty.run (requests ++ [.setIst w index]) = empty.run requests)
      ∧ ((empty.run requests).gate v = none → ∀ index later w,
          (empty.run (requests ++ .setIst v index :: later)).gate w
            = (empty.run (requests ++ later)).gate w)
      ∧ ∀ r : GateRequest, r.vector ≠ v →
          (empty.run (requests ++ [r])).gate v = (empty.run requests).gate v := by
  refine ⟨fun gate => ⟨?_, ?_⟩, fun hv hopened => ?_, fun w hw => ⟨if_pos hw, ?_⟩,
    fun w index hindex => ⟨if_pos hindex, ?_⟩, fun hgate index later w => ?_, fun r hr => ?_⟩
  · intro hgate
    obtain ⟨gate', h⟩ := exists_isGateAfter requests v
    rwa [← hgate, h.gate_eq]
  · exact IsGateAfter.gate_eq
  · refine gate_run_ne_none (fun r _ hown hcloses => ?_) (.inr hopened)
    exact Nat.not_lt_of_le (GateRequest.le_of_closes hcloses) (hown ▸ hv)
  · rw [run_concat, apply_close_of_exception _ hw]
  · rw [run_concat, apply_setIst_of_lt _ w hindex]
  · rw [run_cons_append, run_append]
    -- A stack that is chosen for a missing gate is lost, so what follows runs on the same gates.
    refine gate_run_congr (fun u => ?_) later w
    rw [gate_apply, ite_eq_right_iff]
    rintro rfl
    rw [show (empty.run requests).gate (GateRequest.vector (.setIst v index)) = none from hgate,
      GateRequest.effect_none rfl]
  · rw [run_concat, gate_apply_of_ne _ hr]

end GateTable

end Interrupts
