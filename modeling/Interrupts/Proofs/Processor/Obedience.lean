import Interrupts.Processor.Launch
import Interrupts.Proofs.Discipline

/-!
# Disciplines that bring-up keeps

What bring-up does for a processor is put together from a few operations: looks at the table, states
that are stored, lines, and calls to the hardware side. A discipline that all of them keep, in
whatever state, is kept by the whole. The hardware side of the kernel is put together in the same
way from accesses to registers and ports.

The call that prepares a processor stands apart, since a discipline may be about the processor that
was prepared last: `BringUp.afterPrepare` is what follows that call. And bring-up does not record
just any processor as started, but only one whose flag it has just seen (`BringUp.SawFlag`).
-/

namespace Interrupts

/-! ## Waits -/

/-- **A wait keeps a discipline** that looking and relaxing keep. -/
theorem Discipline.Obeys.wait {ε σ : Type} {D : Discipline ε σ} {check : EStateM ε σ Bool}
    {relax : EStateM ε σ Unit} (hcheck : ∀ s, D.Obeys s check) (hrelax : ∀ s, D.Obeys s relax)
    (b : Budget) (s : σ) : D.Obeys s (b.wait check relax) := by
  have hpoll : ∀ left taken s, D.Obeys s (Budget.poll check relax left taken) := by
    intro left
    induction left with
    | zero => exact fun _ s => (hcheck s).bind fun _ _ => .pure _
    | succ left ih =>
      exact fun _ s => (hcheck s).bind fun _ _ => .ite (fun _ => .pure _) fun _ =>
        (hrelax _).bind fun _ _ => ih _ _
  refine (hpoll _ _ _).bind ?_
  rintro (_ | taken) s' - - <;> exact .pure _

section Waits

variable {ε σ : Type} {check : EStateM ε σ Bool} {relax : EStateM ε σ Unit} {s s' : σ}

/-- A poll that succeeds ended with a look that held. -/
theorem Budget.poll_eq_some {left taken n : Nat}
    (h : Budget.poll check relax left taken s = .ok (some n) s') :
    ∃ s₀, check s₀ = .ok true s' := by
  induction left generalizing taken s with
  | zero =>
    obtain ⟨held, s₁, hcheck, h⟩ := bind_eq_ok.mp h
    obtain ⟨hheld, rfl⟩ := pure_eq_ok.mp h
    cases held with
    | true => exact ⟨s, hcheck⟩
    | false => exact nomatch hheld
  | succ left ih =>
    obtain ⟨held, s₁, hcheck, h⟩ := bind_eq_ok.mp h
    cases held with
    | true =>
      obtain ⟨-, rfl⟩ := pure_eq_ok.mp h
      exact ⟨s, hcheck⟩
    | false =>
      obtain ⟨_, s₂, -, h⟩ := bind_eq_ok.mp h
      exact ih h

/-- **A wait that succeeds ends with a check that does.** -/
theorem Budget.wait_eq_ok {b : Budget} {n : UInt32} (h : b.wait check relax s = .ok (.ok n) s') :
    ∃ s₀, check s₀ = .ok true s' := by
  obtain ⟨taken, s₁, hpoll, h⟩ := bind_eq_ok.mp h
  cases taken with
  | none => exact nomatch (pure_eq_ok.mp h).1
  | some n =>
    obtain ⟨-, rfl⟩ := pure_eq_ok.mp h
    exact poll_eq_some hpoll

end Waits

/-! ## The sequence -/

section Sequence

open BringUp

variable {A : Type}

/-- **What bring-up does for a processor once it was prepared**, or could not be. -/
def BringUp.afterPrepare {m : Type → Type} [Monad m] [Logger m] [MonadStateOf ProcessorTable m]
    [ApControl A m] (ctl : A) (cfg : BringUpConfig) (i : Nat) (id : UInt32) :
    Except BringUpError Unit → m Bool
  | .error e => do
    log .warn s!"MP: CPU {hex0x id.toNat} not started: {e.describe}"
    mark i .abandoned
    pure false
  | .ok () => do
    mark i .initSent
    match ← ApControl.sendInit ctl id with
    | .error e => do
      log .warn s!"MP: INIT to CPU {hex0x id.toNat} failed: {e.describe}"
      mark i .abandoned
      pure false
    | .ok () => do
      ApControl.delay ctl cfg.initDelay
      if ← attempts ctl cfg i id (maxAttempts cfg) 0 then
        mark i .started
        log .info s!"MP: CPU {hex0x id.toNat} reported online"
        pure true
      else
        park ctl i id
        pure false

/-- Starting a processor is preparing it, and then going on with the answer. -/
theorem BringUp.startOne_eq {m : Type → Type} [Monad m] [Logger m] [MonadStateOf ProcessorTable m]
    [ApControl A m] (ctl : A) (cfg : BringUpConfig) (i : Nat) (id : UInt32) :
    (startOne ctl cfg i id : m Bool)
      = ApControl.prepare ctl i id >>= afterPrepare ctl cfg i id :=
  rfl

variable {ε σ : Type} [Logger (EStateM ε σ)] [MonadStateOf ProcessorTable (EStateM ε σ)]
  [ApControl A (EStateM ε σ)]

variable (ε) in
/-- **The flag of a processor was seen** by the look that led to this state. -/
def BringUp.SawFlag (i : Nat) (s : σ) : Prop :=
  ∃ s₀ t, (getThe ProcessorTable : EStateM ε σ ProcessorTable) s₀ = .ok t s ∧ t.isStarted i = true

/-- **An attempt that is answered** ends with a look that sees the flag. -/
theorem BringUp.attempts_eq_true {ctl : A} {cfg : BringUpConfig} {i left sent : Nat} {id : UInt32}
    {s s' : σ} (h : (attempts ctl cfg i id left sent : EStateM ε σ Bool) s = .ok true s') :
    SawFlag ε i s' := by
  induction left generalizing s sent with
  | zero => exact nomatch (pure_eq_ok.mp h).1
  | succ left ih =>
    obtain ⟨_, s₁, -, h⟩ := bind_eq_ok.mp h
    obtain ⟨sentOff, s₂, -, h⟩ := bind_eq_ok.mp h
    cases sentOff with
    | error e =>
      obtain ⟨_, s₃, -, h⟩ := bind_eq_ok.mp h
      exact nomatch (pure_eq_ok.mp h).1
    | ok _ =>
      obtain ⟨_, s₃, -, h⟩ := bind_eq_ok.mp h
      obtain ⟨waited, s₄, hwait, h⟩ := bind_eq_ok.mp h
      -- an attempt that timed out is followed by the rest; one that did not saw the flag
      cases waited with
      | error timeout =>
        obtain ⟨_, s₅, -, h⟩ := bind_eq_ok.mp h
        exact ih h
      | ok n =>
        obtain ⟨-, rfl⟩ := pure_eq_ok.mp h
        obtain ⟨s₀, hcheck⟩ := Budget.wait_eq_ok hwait
        obtain ⟨t, s₅, hlook, hcheck⟩ := bind_eq_ok.mp hcheck
        obtain ⟨hstarted, rfl⟩ := pure_eq_ok.mp hcheck
        exact ⟨s₀, t, hlook, hstarted⟩

/-- **The operations that bring-up uses for a processor keep a discipline.** -/
structure Discipline.Permits (D : Discipline ε σ) (ctl : A) (cfg : BringUpConfig) (i : Nat)
    (id : UInt32) : Prop where
  look : ∀ s, D.Obeys s (getThe ProcessorTable : EStateM ε σ ProcessorTable)
  /-- That the processor has started is recorded only after its flag was seen. -/
  mark : ∀ st s, (st = .started → SawFlag ε i s) → D.Obeys s (mark i st : EStateM ε σ Unit)
  line : ∀ level text s, D.Obeys s (log level text : EStateM ε σ Unit)
  sendInit : ∀ s, D.Obeys s (ApControl.sendInit ctl id : EStateM ε σ (Except BringUpError Unit))
  sendStartup : ∀ s,
    D.Obeys s (ApControl.sendStartup ctl id cfg.startPage : EStateM ε σ (Except BringUpError Unit))
  delay : ∀ us s, D.Obeys s (ApControl.delay ctl us : EStateM ε σ Unit)
  relax : ∀ s, D.Obeys s (ApControl.relax ctl : EStateM ε σ Unit)

namespace Discipline.Permits

variable {D : Discipline ε σ} {ctl : A} {cfg : BringUpConfig} {i : Nat} {id : UInt32}
  (h : D.Permits ctl cfg i id)

include h

/-- Waiting looks at the table and relaxes, and each of these obeys. -/
theorem obeys_wait (b : Budget) (s : σ) :
    D.Obeys s (b.wait (do pure ((← getThe ProcessorTable).isStarted i) : EStateM ε σ Bool)
      (ApControl.relax ctl)) :=
  .wait (fun s => (h.look s).bind fun _ _ => .pure _) h.relax b s

/-- By induction on the attempts that are left, however each of them is answered. -/
theorem obeys_attempts (left sent : Nat) (s : σ) :
    D.Obeys s (attempts ctl cfg i id left sent : EStateM ε σ Bool) := by
  induction left generalizing s sent with
  | zero => exact .pure _
  | succ left ih =>
    refine (h.mark .startupSent s nofun).bind fun _ _ => (h.sendStartup _).bind ?_
    rintro (e | _) s' - -
    · exact (h.line _ _ _).bind fun _ _ => .pure _
    · refine (h.delay _ _).bind fun _ _ => (h.obeys_wait _ _).bind ?_
      rintro (timeout | n) s' - -
      · exact (h.line _ _ _).bind fun _ _ => ih _ _
      · exact .pure _

/-- Parking sends one INIT and records the processor as abandoned. -/
theorem obeys_park (s : σ) : D.Obeys s (park ctl i id : EStateM ε σ Unit) := by
  refine (h.line _ _ s).bind fun _ _ => (h.sendInit _).bind ?_
  rintro (e | _) s' - -
  · exact (h.line _ _ _).bind fun _ _ => h.mark .abandoned _ nofun
  · exact h.mark .abandoned _ nofun

/-- **What follows the call that prepares** keeps the discipline, whatever that call answered. -/
theorem obeys_afterPrepare (answer : Except BringUpError Unit) (s : σ) :
    D.Obeys s (afterPrepare ctl cfg i id answer : EStateM ε σ Bool) := by
  rcases answer with e | _
  · exact (h.line _ _ s).bind fun _ _ => (h.mark .abandoned _ nofun).bind fun _ _ => .pure _
  · refine (h.mark .initSent s nofun).bind fun _ _ => (h.sendInit _).bind ?_
    rintro (e | _) s' - -
    · exact (h.line _ _ _).bind fun _ _ => (h.mark .abandoned _ nofun).bind fun _ _ => .pure _
    · refine (h.delay _ _).bind fun _ _ => (h.obeys_attempts _ _ _).bind ?_
      rintro (_ | _) s' hanswered -
      · exact (h.obeys_park _).bind fun _ _ => .pure _
      · exact (h.mark _ _ fun _ => attempts_eq_true hanswered).bind fun _ _ =>
          (h.line _ _ _).bind fun _ _ => .pure _

end Discipline.Permits

/-! ## All processors -/

/-- **What bring-up consists of keeps a discipline**: looks, lines, and all that is done for a
processor, other than the first, that the table listed when it was last looked at. -/
structure Discipline.PermitsAll (D : Discipline ε σ) (ctl : A) (cfg : BringUpConfig) : Prop where
  look : ∀ s, D.Obeys s (getThe ProcessorTable : EStateM ε σ ProcessorTable)
  line : ∀ level text s, D.Obeys s (log level text : EStateM ε σ Unit)
  one : ∀ {s₀ s t i p}, (getThe ProcessorTable : EStateM ε σ ProcessorTable) s₀ = .ok t s →
    1 ≤ i → t.get? i = some p → D.Obeys s (startOne ctl cfg i p.apicId : EStateM ε σ Bool)

namespace Discipline

variable {D : Discipline ε σ} {ctl : A} {cfg : BringUpConfig}

/-- What follows the preparation obeys when the discipline permits its parts; the preparation itself
is left to the caller. -/
theorem Permits.obeys_startOne {i : Nat} {id : UInt32} (h : D.Permits ctl cfg i id)
    (hprepare : ∀ s,
      D.Obeys s (ApControl.prepare ctl i id : EStateM ε σ (Except BringUpError Unit))) (s : σ) :
    D.Obeys s (startOne ctl cfg i id : EStateM ε σ Bool) := by
  rw [startOne_eq]
  exact (hprepare s).bind fun _ _ => h.obeys_afterPrepare _ _

namespace PermitsAll

variable (h : D.PermitsAll ctl cfg)

include h

/-- A sweep obeys when each processor that it finds pending does, by induction on the processors
left. -/
theorem obeys_startFrom (left index started abandoned : Nat) (hindex : 1 ≤ index) (s : σ) :
    D.Obeys s (startFrom ctl cfg left index started abandoned : EStateM ε σ (Nat × Nat)) := by
  induction left generalizing s index started abandoned with
  | zero => exact .pure _
  | succ left ih =>
    -- the counts that a sweep carries along are of no account here
    have hnext (started abandoned : Nat) (s : σ) := ih (index + 1) started abandoned (by omega) s
    refine (h.look s).bind fun {t s'} hlook _ => ?_
    cases hget : t.get? index with
    | none => exact hnext _ _ _
    | some p =>
      exact .ite (fun _ => (h.one hlook hindex hget).bind fun _ _ =>
        .ite (fun _ => hnext _ _ _) fun _ => hnext _ _ _) fun _ => hnext _ _ _

/-- **So does bring-up.** -/
theorem obeys_run (s : σ) : D.Obeys s (run ctl cfg : EStateM ε σ BringUp) :=
  (h.look s).bind fun _ _ => .ite (fun _ => (h.line _ _ _).bind fun _ _ => .pure _) fun _ =>
    (h.obeys_startFrom _ _ _ _ (Nat.le_refl 1) _).bind fun _ _ =>
      (h.line _ _ _).bind fun _ _ => .pure _

end PermitsAll

end Discipline

end Sequence

/-! ## The hardware side -/

section Hardware

variable {σ R P : Type} [RegisterBus R (EStateM Stop σ)] [PortBus P (EStateM Stop σ)]

/-- **Reading registers and using the ports keeps a discipline**, and it is no offence to wait in
vain. -/
structure Discipline.Serves (D : Discipline Stop σ) (window : R) (ports : P) : Prop where
  read32 : ∀ offset s, D.Obeys s (RegisterBus.read32 window offset : EStateM Stop σ UInt32)
  read8 : ∀ port s, D.Obeys s (PortBus.read8 ports port : EStateM Stop σ UInt8)
  write8 : ∀ port value s, D.Obeys s (PortBus.write8 ports port value : EStateM Stop σ Unit)
  /-- A wait that is not answered ends in a stop, and that is allowed. -/
  stalled : ∀ s, D.stops s .stalled s

namespace Discipline.Serves

variable {D : Discipline Stop σ} {window : R} {ports : P} (h : D.Serves window ports)

include h

/-- A reading of the counter is a write and two reads of its ports. -/
theorem obeys_readCount (s : σ) :
    D.Obeys s (Pit.readCount ports : EStateM Stop σ UInt16) :=
  (h.write8 _ _ s).bind fun _ _ => (h.read8 _ _).bind fun _ _ => (h.read8 _ _).bind fun _ _ =>
    .pure _

/-- Counting only reads the counter, by induction on the patience. -/
theorem obeys_countTo (needed : UInt32) (patience : Nat) (last : UInt16) (elapsed : UInt32)
    (s : σ) :
    D.Obeys s (Pit.countTo ports needed patience last elapsed : EStateM Stop σ Unit) := by
  induction patience generalizing s last elapsed with
  | zero => exact .ite (fun _ => .throw (h.stalled s)) fun _ => .pure _
  | succ patience ih =>
    exact .ite (fun _ => (h.obeys_readCount s).bind fun _ _ => ih _ _ _) fun _ => .pure _

/-- A delay does nothing but read the counter. -/
theorem obeys_pollDelay (patience : Nat) (ms : UInt32) (s : σ) :
    D.Obeys s (Pit.pollDelay ports patience ms : EStateM Stop σ Unit) :=
  .ite (fun _ => .pure _) fun _ =>
    (h.obeys_readCount s).bind fun _ _ => h.obeys_countTo _ _ _ _ _

omit h

/-- Waiting for a command to be accepted. -/
theorem obeys_accept {a : LocalApic R} (h : D.Serves a.window ports) (b : Budget) (s : σ) :
    D.Obeys s (b.wait a.commandAccepted (pure ()) : EStateM Stop σ (Except SpinTimeout UInt32)) :=
  .wait (fun s => (h.read32 _ s).bind fun _ _ => .pure _) (fun _ => .pure _) b s

end Discipline.Serves

end Hardware

end Interrupts
