import Interrupts.OneShot
import Interrupts.Proofs.Discipline
import Interrupts.Stop

/-!
# Cells that are filled once

A slot is where a cell is kept in a larger state. When it is one, filling it has three ends that do
not stop: the cell was claimed and nothing happened; or the initialiser ran in a state in which the
cell was being filled, and the cell holds its value, or is spent.
-/

namespace Interrupts

/-- What becomes of a cell when the initialiser has returned. -/
def OneShot.settled {α ε : Type} : Except ε α → OneShot α
  | .ok a => .ready a
  | .error _ => .failed

namespace Slot

variable {σ α ε : Type} {s s' : σ} {slot : Slot (EStateM Stop σ) α} {get : σ → OneShot α}
  {set : OneShot α → σ → σ}

/-- The slot is this cell of the state. -/
structure IsCell (slot : Slot (EStateM Stop σ) α) (get : σ → OneShot α)
    (set : OneShot α → σ → σ) : Prop where
  /-- A look shows the cell and changes nothing. -/
  look : ∀ s, slot.look s = .ok (get s) s
  /-- Putting something there changes the cell and nothing else. -/
  put : ∀ c s, slot.put c s = .ok () (set c s)

/-- **Filling a cell**: a claimed one is left alone; another one holds the value that the
initialiser returned, or is spent. -/
theorem tryInit_cases (hcell : slot.IsCell get set) {initialiser : EStateM Stop σ (Except ε α)}
    {reply : Except (InitError ε) α} (h : slot.tryInit initialiser s = .ok reply s') :
    ((get s).isClaimed = true ∧ reply = .error .alreadyInitialized ∧ s' = s)
      ∨ (∃ a s₁, initialiser (set .running s) = .ok (.ok a) s₁ ∧ reply = .ok a
        ∧ s' = set (.ready a) s₁)
      ∨ ∃ e s₁, initialiser (set .running s) = .ok (.error e) s₁ ∧ reply = .error (.failed e)
        ∧ s' = set .failed s₁ := by
  unfold tryInit at h
  rw [bind_of_ok (hcell.look s)] at h
  -- a claimed cell answers at once; otherwise the cell is running while the initialiser is
  by_cases hclaimed : (get s).isClaimed = true
  · rw [if_pos hclaimed] at h
    obtain ⟨rfl, rfl⟩ := pure_eq_ok.mp h
    exact .inl ⟨hclaimed, rfl, rfl⟩
  · rw [if_neg hclaimed, bind_of_ok (hcell.put .running s)] at h
    obtain ⟨r, s₁, hinit, h⟩ := bind_eq_ok.mp h
    cases r with
    | ok a =>
      obtain ⟨_, s₂, hput, h⟩ := bind_eq_ok.mp h
      cases hput.symm.trans (hcell.put (.ready a) s₁)
      obtain ⟨rfl, rfl⟩ := pure_eq_ok.mp h
      exact .inr (.inl ⟨a, s₁, hinit, rfl, rfl⟩)
    | error e =>
      obtain ⟨_, s₂, hput, h⟩ := bind_eq_ok.mp h
      cases hput.symm.trans (hcell.put .failed s₁)
      obtain ⟨rfl, rfl⟩ := pure_eq_ok.mp h
      exact .inr (.inr ⟨e, s₁, hinit, rfl, rfl⟩)

section Fill

variable (hcell : slot.IsCell get set)

include hcell

/-- An attempt on a claimed cell is refused. -/
theorem tryInit_of_claimed (h : (get s).isClaimed = true)
    (initialiser : EStateM Stop σ (Except ε α)) :
    slot.tryInit initialiser s = .ok (.error .alreadyInitialized) s := by
  unfold tryInit
  rw [bind_of_ok (hcell.look s), if_pos h]
  rfl

/-- **An attempt on an unclaimed cell** runs the initialiser while the cell is being filled, and
leaves its value in the cell, or a spent cell. -/
theorem tryInit_of_unclaimed (h : get s = .unclaimed)
    {initialiser : EStateM Stop σ (Except ε α)} {result : Except ε α} {s₁ : σ}
    (hinit : initialiser (set .running s) = .ok result s₁) :
    slot.tryInit initialiser s
      = .ok (result.mapError .failed) (set (OneShot.settled result) s₁) := by
  unfold tryInit
  rw [bind_of_ok (hcell.look s), if_neg (by rw [h]; exact Bool.false_ne_true),
    bind_of_ok (hcell.put .running s), bind_of_ok hinit]
  cases result with
  | ok a => exact bind_of_ok (hcell.put (.ready a) s₁)
  | error e => exact bind_of_ok (hcell.put .failed s₁)

/-- An attempt with a value that cannot be missing is refused by a claimed cell too. -/
theorem init_of_claimed (h : (get s).isClaimed = true) (initialiser : EStateM Stop σ α) :
    slot.init initialiser s = .ok none s :=
  bind_of_ok (tryInit_of_claimed hcell h _)

/-- **And it leaves the value in an unclaimed one.** -/
theorem init_of_unclaimed (h : get s = .unclaimed) {initialiser : EStateM Stop σ α} {a : α} {s₁ : σ}
    (hinit : initialiser (set .running s) = .ok a s₁) :
    slot.init initialiser s = .ok (some a) (set (.ready a) s₁) := by
  have hmap : (Except.ok <$> initialiser : EStateM Stop σ (Except Empty α)) (set .running s)
      = .ok (.ok a) s₁ := by
    rw [map_eq_pure_bind]
    exact bind_of_ok hinit
  exact bind_of_ok (tryInit_of_unclaimed hcell h hmap)

end Fill

/-- Filling a cell with a value that cannot be missing. -/
theorem init_cases (hcell : slot.IsCell get set) {initialiser : EStateM Stop σ α}
    {reply : Option α} (h : slot.init initialiser s = .ok reply s') :
    (reply = none ∧ s' = s)
      ∨ ∃ a s₁, initialiser (set .running s) = .ok a s₁ ∧ reply = some a
        ∧ s' = set (.ready a) s₁ := by
  obtain ⟨r, s₁, hfilled, hreply⟩ := bind_eq_ok.mp h
  rcases tryInit_cases hcell hfilled with
    ⟨-, rfl, rfl⟩ | ⟨a, s₂, hinit, rfl, rfl⟩ | ⟨e, -⟩
  · obtain ⟨rfl, rfl⟩ := pure_eq_ok.mp hreply
    exact .inl ⟨rfl, rfl⟩
  · obtain ⟨rfl, rfl⟩ := pure_eq_ok.mp hreply
    rw [map_eq_pure_bind] at hinit
    obtain ⟨a', s₃, hinit, hpure⟩ := bind_eq_ok.mp hinit
    obtain ⟨heq, rfl⟩ := pure_eq_ok.mp hpure
    cases heq
    exact .inr ⟨a, s₃, hinit, rfl, rfl⟩
  · exact e.elim

end Slot

end Interrupts
