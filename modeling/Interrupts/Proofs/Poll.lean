import Mathlib.Data.List.Flatten
import Mathlib.Data.Nat.Find
import Interrupts.Poll
import Interrupts.Proofs.Discipline

/-!
# When a wait ends

The condition of a wait and its relaxing step are taken here as any two functions of a common state.
The state stands for the hardware and for whoever else goes on meanwhile, so that every look may
change what later looks see.

Suppose the condition were looked at for ever, with a step after each look. This fixes an answer for
every number of steps, and a wait is a beginning of it: it goes on until the first answer that is
true, and no further than its budget. So the first lemmas are about `poll`, which has come some way
already, and the main statement compares a wait with the endless run.
-/

namespace Interrupts

/-- **What a wait has to do with**: a condition to look at, and a step to take between two looks. -/
structure Awaited (σ : Type) where
  /-- Whether the condition holds, and what looking at it does. -/
  check : σ → Bool × σ
  /-- What is done between two looks. -/
  relax : σ → σ

/-- **A call that a wait makes**, a check together with its answer. -/
inductive PollCall where
  | check (held : Bool)
  | relax
  deriving DecidableEq

namespace PollCall

/-- A check, whatever it answers. -/
def isCheck : PollCall → Bool
  | check _ => true
  | relax => false

/-- Steps, with a check before each of them that answers no. -/
def rounds (steps : Nat) : List PollCall :=
  (List.replicate steps [check false, relax]).flatten

/-- **Checks and steps in turn**, from a check to a check, where only the last one may answer
yes. -/
def inTurn (steps : Nat) (held : Bool) : List PollCall :=
  rounds steps ++ [check held]

theorem rounds_succ (steps : Nat) : rounds (steps + 1) = rounds steps ++ [check false, relax] := by
  rw [rounds, List.replicate_succ', List.flatten_append, List.flatten_singleton, rounds]

/-- Taking turns, there is one pause for every step. -/
theorem count_relax_inTurn (steps : Nat) (held : Bool) :
    (inTurn steps held).count relax = steps := by
  have hrounds : (rounds steps).count relax = steps := by
    induction steps with
    | zero => rfl
    | succ steps ih => rw [rounds_succ, List.count_append, ih]; rfl
  rw [inTurn, List.count_append, hrounds]
  rfl

/-- And one check more than pauses. -/
theorem countP_isCheck_inTurn (steps : Nat) (held : Bool) :
    (inTurn steps held).countP isCheck = steps + 1 := by
  have hrounds : (rounds steps).countP isCheck = steps := by
    induction steps with
    | zero => rfl
    | succ steps ih => rw [rounds_succ, List.countP_append, ih]; rfl
  rw [inTurn, List.countP_append, hrounds]
  rfl

end PollCall

namespace Awaited

open PollCall

variable {ε σ : Type} (a : Awaited σ)

/-- **Wait for it** within a budget. -/
def wait (b : Budget) : EStateM ε σ (Except SpinTimeout UInt32) :=
  b.wait (modifyGet a.check) (modify a.relax)

/-- Check and relax in turn, with `left` steps to go after `taken` ones. -/
def poll (left taken : Nat) : EStateM ε σ (Option Nat) :=
  Budget.poll (modifyGet a.check) (modify a.relax) left taken

/-- The same with every call written down. -/
def recorded : Awaited (σ × List PollCall) where
  check w := ((a.check w.1).1, (a.check w.1).2, w.2 ++ [.check (a.check w.1).1])
  relax w := (a.relax w.1, w.2 ++ [.relax])

/-! ## Looking for ever -/

section Endless

variable (s : σ)

/-- The state after so many steps, each with a check before it. -/
def before : Nat → σ
  | 0 => s
  | steps + 1 => a.relax (a.check (before steps)).2

/-- What is answered after so many steps. -/
def answer (steps : Nat) : Bool :=
  (a.check (a.before s steps)).1

/-- The state that this check leaves. -/
def after (steps : Nat) : σ :=
  (a.check (a.before s steps)).2

/-- **The condition holds for the first time** after so many steps, that is, at the check that
follows them. -/
def HoldsFirst (steps : Nat) : Prop :=
  a.answer s steps = true ∧ ∀ k < steps, a.answer s k = false

variable {a s} in
/-- There is only one first time. -/
theorem HoldsFirst.unique {k l : Nat} (hk : a.HoldsFirst s k) (hl : a.HoldsFirst s l) : k = l := by
  rcases Nat.lt_trichotomy k l with hlt | heq | hgt
  · exact absurd (hk.1.symm.trans (hl.2 k hlt)) (by decide)
  · exact heq
  · exact absurd (hl.1.symm.trans (hk.2 l hgt)) (by decide)

/-- Up to a bound the condition holds for a first time, or never. -/
theorem exists_holdsFirst_or_forall (bound : Nat) :
    (∃ k ≤ bound, a.HoldsFirst s k) ∨ ∀ k ≤ bound, a.answer s k = false := by
  by_cases h : ∃ k, k ≤ bound ∧ a.answer s k = true
  · obtain ⟨hle, htrue⟩ := Nat.find_spec h
    refine .inl ⟨Nat.find h, hle, htrue, fun k hk => Bool.eq_false_iff.mpr fun hheld => ?_⟩
    exact Nat.find_min h hk ⟨Nat.le_trans (Nat.le_of_lt hk) hle, hheld⟩
  · exact .inr fun k hk => Bool.eq_false_iff.mpr fun hheld => h ⟨k, hk, hheld⟩

/-! ## The record -/

variable (log : List PollCall)

/-- Keeping a record changes nothing else. -/
theorem recorded_before_fst (k : Nat) : (a.recorded.before (s, log) k).1 = a.before s k := by
  induction k with
  | zero => rfl
  | succ k ih => exact congrArg (fun s => a.relax (a.check s).2) ih

theorem recorded_answer (k : Nat) : a.recorded.answer (s, log) k = a.answer s k :=
  congrArg (fun s => (a.check s).1) (a.recorded_before_fst s log k)

variable {a s} in
/-- As long as the condition does not hold, the calls take turns. -/
theorem recorded_before {k : Nat} (h : ∀ j < k, a.answer s j = false) :
    a.recorded.before (s, log) k = (a.before s k, log ++ rounds k) := by
  induction k with
  | zero => exact congrArg (Prod.mk s) (List.append_nil log).symm
  | succ k ih =>
    have hk : (a.check (a.before s k)).1 = false := h k (Nat.lt_succ_self k)
    have hbefore := ih fun j hj => h j (Nat.lt_succ_of_lt hj)
    rw [before, hbefore, rounds_succ]
    simp [recorded, hk, before]

variable {a s} in
/-- The record does not change when the condition holds. -/
theorem HoldsFirst.recorded {k : Nat} (h : a.HoldsFirst s k) :
    a.recorded.HoldsFirst (s, log) k :=
  ⟨(a.recorded_answer s log k).trans h.1, fun j hj =>
    (a.recorded_answer s log j).trans (h.2 j hj)⟩

variable {a s} in
/-- The check that comes then is the last call. -/
theorem recorded_after {k : Nat} (h : ∀ j < k, a.answer s j = false) :
    a.recorded.after (s, log) k = (a.after s k, log ++ inTurn k (a.answer s k)) := by
  rw [after, recorded_before log h, inTurn, ← List.append_assoc]
  rfl

end Endless

/-! ## The loop -/

variable {a} {s : σ} {left taken k : Nat}

theorem poll_zero : (a.poll 0 taken : EStateM ε σ _) (a.before s taken)
    = .ok (if a.answer s taken then some taken else none) (a.after s taken) :=
  rfl

/-- **One turn of the loop.** -/
theorem poll_succ : (a.poll (left + 1) taken : EStateM ε σ _) (a.before s taken)
    = if a.answer s taken then .ok (some taken) (a.after s taken)
      else a.poll left (taken + 1) (a.before s (taken + 1)) := by
  have hturn : (a.poll (left + 1) taken : EStateM ε σ _) (a.before s taken)
      = (if a.answer s taken then pure (some taken)
          else do modify a.relax; a.poll left (taken + 1)) (a.after s taken) := rfl
  rw [hturn]
  split <;> rfl

/-- The loop ends at the first check that answers yes. -/
theorem poll_of_first (hle : taken ≤ k) (hk : k ≤ taken + left) (hyes : a.answer s k = true)
    (hno : ∀ j, taken ≤ j → j < k → a.answer s j = false) :
    (a.poll left taken : EStateM ε σ _) (a.before s taken) = .ok (some k) (a.after s k) := by
  induction left generalizing taken with
  | zero =>
    obtain rfl : k = taken := Nat.le_antisymm hk hle
    rw [poll_zero, hyes, if_pos rfl]
  | succ left ih =>
    rw [poll_succ]
    rcases Nat.eq_or_lt_of_le hle with rfl | hlt
    · rw [hyes, if_pos rfl]
    · rw [hno taken (Nat.le_refl taken) hlt, if_neg Bool.false_ne_true]
      exact ih hlt (by omega) fun j hj => hno j (Nat.le_of_succ_le hj)

/-- And without one it goes on to the end of the budget. -/
theorem poll_of_never (hno : ∀ j, taken ≤ j → j ≤ taken + left → a.answer s j = false) :
    (a.poll left taken : EStateM ε σ _) (a.before s taken)
      = .ok none (a.after s (taken + left)) := by
  induction left generalizing taken with
  | zero =>
    rw [poll_zero, hno taken (Nat.le_refl taken) (Nat.le_refl taken), if_neg Bool.false_ne_true,
      Nat.add_zero]
  | succ left ih =>
    rw [poll_succ, hno taken (Nat.le_refl taken) (Nat.le_add_right _ _),
      if_neg Bool.false_ne_true, ih fun j hj hj' => hno j (by omega) (by omega),
      Nat.add_right_comm, Nat.add_assoc]

/-! ## The wait -/

variable {b : Budget}

/-- A condition that holds in time is seen when it does for the first time. -/
theorem HoldsFirst.wait {k : UInt32} (h : a.HoldsFirst s k.toNat) (hk : k ≤ b.polls) :
    (a.wait b : EStateM ε σ _) s = .ok (.ok k) (a.after s k.toNat) := by
  have hpoll : (a.poll b.polls.toNat 0 : EStateM ε σ _) s
      = .ok (some k.toNat) (a.after s k.toNat) :=
    poll_of_first (Nat.zero_le _) (by rw [Nat.zero_add]; exact hk) h.1 fun j _ => h.2 j
  refine (bind_of_ok hpoll).trans ?_
  dsimp only
  rw [UInt32.ofNat_toNat]
  rfl

/-- One that does not is waited for in vain. -/
theorem wait_of_never (h : ∀ k ≤ b.polls.toNat, a.answer s k = false) :
    (a.wait b : EStateM ε σ _) s = .ok (.error ⟨b.polls⟩) (a.after s b.polls.toNat) := by
  have hpoll : (a.poll b.polls.toNat 0 : EStateM ε σ _) s
      = .ok none (a.after s (0 + b.polls.toNat)) :=
    poll_of_never fun j _ hj => h j (Nat.zero_add b.polls.toNat ▸ hj)
  rw [Nat.zero_add] at hpoll
  exact bind_of_ok hpoll

/-- Within a budget the condition holds for a first time, or never. -/
theorem holdsFirst_or_never (a : Awaited σ) (b : Budget) (s : σ) :
    (∃ k ≤ b.polls, a.HoldsFirst s k.toNat) ∨ ∀ k ≤ b.polls.toNat, a.answer s k = false := by
  refine (a.exists_holdsFirst_or_forall s b.polls.toNat).imp_left ?_
  rintro ⟨n, hn, hfirst⟩
  have hword : (UInt32.ofNat n).toNat = n :=
    UInt32.toNat_ofNat_of_lt' (Nat.lt_of_le_of_lt hn b.polls.toNat_lt)
  exact ⟨UInt32.ofNat n, UInt32.le_iff_toNat_le.mpr (hword.symm ▸ hn), hword.symm ▸ hfirst⟩

/-- **A wait ends when its condition first holds, or with its budget.** Its calls are checks and
steps in turn, from a check to a check, so there is one check more than there are steps. It answers
`k` just when the condition first holds at the check after `k` steps and the budget allows these,
and then `k` steps were taken. Otherwise it answers a timeout with its budget, and has taken all the
steps of the budget. What the last of these makes true has still been seen. -/
theorem wait_endsFirst (a : Awaited σ) (b : Budget) (s : σ) :
    ∃ (answer : Except SpinTimeout UInt32) (steps : Nat) (held : Bool),
      (a.wait b : EStateM ε σ _) s = .ok answer (a.after s steps)
        ∧ (a.recorded.wait b : EStateM ε _ _) (s, [])
          = .ok answer (a.after s steps, inTurn steps held)
        ∧ (inTurn steps held).count .relax = steps
        ∧ (inTurn steps held).countP isCheck = steps + 1
        ∧ (∀ k : UInt32, answer = .ok k ↔ k ≤ b.polls ∧ a.HoldsFirst s k.toNat)
        ∧ (∀ k : UInt32, answer = .ok k → steps = k.toNat ∧ held = true)
        ∧ (∀ t : SpinTimeout, answer = .error t
          ↔ t = ⟨b.polls⟩ ∧ ∀ k ≤ b.polls.toNat, a.answer s k = false)
        ∧ (∀ t : SpinTimeout, answer = .error t → steps = b.polls.toNat ∧ held = false)
        ∧ (a.HoldsFirst s b.polls.toNat → answer = .ok b.polls) := by
  rcases a.holdsFirst_or_never b s with ⟨n, hn, hfirst⟩ | hnever
  · have hrecorded := (hfirst.recorded []).wait (ε := ε) hn
    rw [recorded_after [] hfirst.2, hfirst.1] at hrecorded
    have hok {k : UInt32} (h : a.HoldsFirst s k.toNat) : Except.ok (ε := SpinTimeout) n = .ok k :=
      congrArg Except.ok (UInt32.toNat_inj.mp (hfirst.unique h))
    refine ⟨.ok n, n.toNat, true, hfirst.wait hn, hrecorded, count_relax_inTurn _ _,
      countP_isCheck_inTurn _ _, fun k => ⟨?_, fun h => hok h.2⟩, ?_, fun t => ⟨nofun, ?_⟩, nofun,
      hok⟩
    · rintro ⟨⟩
      exact ⟨hn, hfirst⟩
    · rintro k ⟨⟩
      exact ⟨rfl, rfl⟩
    · rintro ⟨-, hnever⟩
      exact absurd (hfirst.1.symm.trans (hnever n.toNat hn)) (by decide)
  · have hrecorded := wait_of_never (ε := ε) (a := a.recorded) (s := (s, [])) fun k hk =>
      (a.recorded_answer s [] k).trans (hnever k hk)
    have hbefore : ∀ k < b.polls.toNat, a.answer s k = false := fun k hk =>
      hnever k (Nat.le_of_lt hk)
    rw [recorded_after [] hbefore, hnever _ (Nat.le_refl _)] at hrecorded
    have hnot {k : UInt32} (hk : k ≤ b.polls) (h : a.HoldsFirst s k.toNat) : False :=
      absurd (h.1.symm.trans (hnever k.toNat hk)) (by decide)
    refine ⟨.error ⟨b.polls⟩, b.polls.toNat, false, wait_of_never hnever, hrecorded,
      count_relax_inTurn _ _, countP_isCheck_inTurn _ _,
      fun k => ⟨nofun, fun h => (hnot h.1 h.2).elim⟩, nofun,
      fun t => ⟨?_, fun h => congrArg Except.error h.1.symm⟩, fun _ _ => ⟨rfl, rfl⟩,
      fun h => (hnot (UInt32.le_refl b.polls) h).elim⟩
    rintro ⟨⟩
    exact ⟨rfl, hnever⟩

/-- What the third and last step of the budget makes true is seen, by the fourth check. -/
example : let a : Awaited Nat := { check := fun n => (n == 3, n), relax := fun n => n + 1 }
    (a.recorded.wait ⟨3⟩ : EStateM Unit _ _) (0, []) = .ok (.ok 3) (3, inTurn 3 true) := by
  rfl

end Awaited

end Interrupts
