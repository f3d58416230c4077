import Interrupts.Proofs.Processor.Moves
import Interrupts.Proofs.Processor.Obedience

/-!
# Bring-up makes a course

Bring-up is written for any monad that keeps a processor table. A `Track` finds the table in the
state of such a monad and says what a record of moves has to do with two states; `Tracked` asks of
the operations that bring-up uses that each is one move. With no more than that, every run of
`BringUp.run` that returns has made a `Course`, and one that stops was stopped by an operation.

`Tells` is what is proved of each part of bring-up: some moves lead from the one state to the other,
and they are of a certain form. The forms are the inductive types of the moves, whose constructors
are the ways through the code, so every branch of a part ends in the constructor of its own.
-/

namespace Interrupts

/-- **How to follow bring-up through the states of a monad.** -/
structure Track (ε σ : Type) where
  /-- The processor table. -/
  table : σ → ProcessorTable
  /-- What happened between two states can be told like this. -/
  notes : σ → List ApMove → σ → Prop
  notes_nil : ∀ s, notes s [] s
  notes_append : ∀ {s ms s' ms' s''}, notes s ms s' → notes s' ms' s'' → notes s (ms ++ ms') s''
  /-- The ways in which an operation may stop. -/
  stops : ε → Prop

namespace Track

variable {ε σ α : Type}

/-- The operation is one move, during which processors may raise their flags. -/
structure OneMove (k : Track ε σ) (x : EStateM ε σ α) (act : α → ApAct) : Prop where
  /-- It is noted as one move, with the tables before and after it. -/
  returns : ∀ {s a s'}, x s = .ok a s' →
    (k.table s).Raises (k.table s') ∧ k.notes s [⟨act a, k.table s, k.table s'⟩] s'
  /-- If it stops, then in one of the ways of the track. -/
  stops : ∀ {s e s'}, x s = .error e s' → k.stops e

/-- What happened between two states is told by a relation between records and tables. -/
def Tells (k : Track ε σ) (s : σ) (P : ProcessorTable → List ApMove → ProcessorTable → Prop)
    (s' : σ) : Prop :=
  ∃ ms, k.notes s ms s' ∧ P (k.table s) ms (k.table s')

variable {k : Track ε σ} {s s' s'' : σ}

/-- Two runs in a row tell one straight line of deeds after the other. -/
theorem Tells.append {deeds deeds' : List ApDeed} (h : k.Tells s (Performs deeds) s')
    (h' : k.Tells s' (Performs deeds') s'') : k.Tells s (Performs (deeds ++ deeds')) s'' := by
  obtain ⟨ms, hms, hdeeds⟩ := h
  obtain ⟨ms', hms', hdeeds'⟩ := h'
  exact ⟨ms ++ ms', k.notes_append hms hms', hdeeds.append hdeeds'⟩

/-- A call that makes one move tells that call. -/
theorem OneMove.tells {x : EStateM ε σ α} {a : α} {c : α → ApCall}
    (hx : k.OneMove x fun a => .call (c a)) (h : x s = .ok a s') :
    k.Tells s (Performs [.call (c a)]) s' :=
  ⟨_, (hx.returns h).2, .one_call (hx.returns h).1⟩

/-- Anything may happen to the state, but only operations stop. -/
def discipline (k : Track ε σ) : Discipline ε σ where
  keeps _ _ := True
  stops _ e _ := k.stops e
  refl := fun _ => trivial
  trans := fun _ _ => trivial
  stops_of_keeps := fun _ h => h

theorem OneMove.obeys {x : EStateM ε σ α} {act : α → ApAct} (hx : k.OneMove x act) :
    k.discipline.Obeys s x :=
  ⟨fun _ => trivial, hx.stops⟩

end Track

/-- **A monad in which bring-up can be followed.** -/
structure Tracked (A ε σ : Type) [Logger (EStateM ε σ)] [MonadStateOf ProcessorTable (EStateM ε σ)]
    [ApControl A (EStateM ε σ)] extends Track ε σ where
  /-- A look at the table takes no time. -/
  get : ∀ s : σ, (getThe ProcessorTable : EStateM ε σ ProcessorTable) s = .ok (table s) s
  /-- A state is stored at once. -/
  store : ∀ i st s, ∃ s',
    (modifyThe ProcessorTable fun t => t.setState i st : EStateM ε σ PUnit) s = .ok ⟨⟩ s'
      ∧ table s' = (table s).setState i st ∧ notes s [⟨.store, table s, table s'⟩] s'
  /-- A log line takes its time. -/
  line : ∀ level text, toTrack.OneMove (log level text : EStateM ε σ Unit) fun _ => .line
  /-- The calls to the hardware side take theirs, and are noted with their answers. -/
  prepare : ∀ (ctl : A) i id, toTrack.OneMove
    (ApControl.prepare ctl i id : EStateM ε σ _) fun answer => .call (.prepare i id answer)
  sendInit : ∀ (ctl : A) id, toTrack.OneMove
    (ApControl.sendInit ctl id : EStateM ε σ _) fun answer => .call (.init id answer)
  sendStartup : ∀ (ctl : A) id page, toTrack.OneMove
    (ApControl.sendStartup ctl id page : EStateM ε σ _)
    fun answer => .call (.startup id page answer)
  delay : ∀ (ctl : A) us, toTrack.OneMove
    (ApControl.delay ctl us : EStateM ε σ _) fun _ => .call (.delay us)
  relax : ∀ ctl : A, toTrack.OneMove (ApControl.relax ctl : EStateM ε σ _) fun _ => .call .relax

namespace Tracked

open BringUp

variable {A ε σ : Type} [Logger (EStateM ε σ)] [MonadStateOf ProcessorTable (EStateM ε σ)]
  [ApControl A (EStateM ε σ)] (k : Tracked A ε σ) {s s' : σ}

include k

/-! ## Single moves -/

/-- A log line is one deed, which changes nothing. -/
theorem tells_log {level : Level} {text : String} {u : Unit}
    (h : (log level text : EStateM ε σ Unit) s = .ok u s') :
    k.Tells s (Performs [.line]) s' :=
  ⟨_, ((k.line level text).returns h).2, .one_line ((k.line level text).returns h).1⟩

/-- Recording a state is one deed, a store at the place of the processor. -/
theorem tells_mark {i : Nat} {st : ProcessorState} {u : Unit}
    (h : (mark i st : EStateM ε σ Unit) s = .ok u s') :
    k.Tells s (Performs [.store i st]) s' := by
  obtain ⟨s₁, hrun, htable, hnotes⟩ := k.store i st s
  cases hrun.symm.trans h
  rw [htable] at hnotes
  exact ⟨_, hnotes, htable ▸ .one_store (k.table s) i st⟩

/-! ## The wait -/

/-- One look at the flag of a processor. -/
theorem look_eq_ok {i : Nat} {b : Bool}
    (h : (do pure ((← getThe ProcessorTable).isStarted i) : EStateM ε σ Bool) s = .ok b s') :
    (k.table s).isStarted i = b ∧ s = s' := by
  obtain ⟨t, s₁, hget, hpure⟩ := bind_eq_ok.mp h
  rw [k.get] at hget
  cases hget
  exact pure_eq_ok.mp hpure

/-- A poll of the flag tells a wait: looks with a relax after each that failed, by induction on the
budget that is left. -/
theorem poll_waits {ctl : A} {i left taken : Nat} {answer : Option Nat}
    (h : Budget.poll (do pure ((← getThe ProcessorTable).isStarted i) : EStateM ε σ Bool)
      (ApControl.relax ctl) left taken s = .ok answer s') :
    k.Tells s (fun t ms t' => Waits i left t ms answer.isSome t') s' := by
  -- Every step but the last begins with a look; the last look decides the answer.
  induction left generalizing taken s with
  | zero =>
    obtain ⟨held, s₁, hlook, hpure⟩ := bind_eq_ok.mp h
    obtain ⟨rfl, rfl⟩ := k.look_eq_ok hlook
    obtain ⟨rfl, rfl⟩ := pure_eq_ok.mp hpure
    refine ⟨[], k.notes_nil _, ?_⟩
    cases hflag : (k.table s).isStarted i with
    | true => exact .seen hflag
    | false => exact .unseen hflag
  | succ left ih =>
    obtain ⟨held, s₁, hlook, h⟩ := bind_eq_ok.mp h
    obtain ⟨rfl, rfl⟩ := k.look_eq_ok hlook
    cases hflag : (k.table s).isStarted i with
    | true =>
      rw [hflag, if_pos rfl] at h
      obtain ⟨rfl, rfl⟩ := pure_eq_ok.mp h
      exact ⟨[], k.notes_nil _, .seen hflag⟩
    | false =>
      rw [hflag, if_neg Bool.false_ne_true] at h
      obtain ⟨_, s₂, hrelax, hrest⟩ := bind_eq_ok.mp h
      obtain ⟨ms, hms, hstep⟩ := (k.relax ctl).tells hrelax
      obtain ⟨ms', hms', hwaits⟩ := ih hrest
      exact ⟨ms ++ ms', k.notes_append hms hms', .relax hflag hstep hwaits⟩

/-- The wait answers whether the flag was seen. -/
theorem wait_waits {ctl : A} {i : Nat} {b : Budget} {answer : Except SpinTimeout UInt32}
    (h : b.wait (do pure ((← getThe ProcessorTable).isStarted i) : EStateM ε σ Bool)
      (ApControl.relax ctl) s = .ok answer s') :
    k.Tells s (fun t ms t' => Waits i b.polls.toNat t ms answer.isOk t') s' := by
  obtain ⟨taken, s₁, hpoll, h⟩ := bind_eq_ok.mp h
  -- the wait answers with the number of relaxes taken, or with a timeout when there is none
  have hwaits := k.poll_waits hpoll
  cases taken with
  | none =>
    obtain ⟨rfl, rfl⟩ := pure_eq_ok.mp h
    exact hwaits
  | some n =>
    obtain ⟨rfl, rfl⟩ := pure_eq_ok.mp h
    exact hwaits

/-! ## One processor -/

/-- The loop of attempts tells a list of attempts, by induction on those that are left. -/
theorem attempts_attempts {ctl : A} {cfg : BringUpConfig} {i : Nat} {id : UInt32}
    {left sent : Nat} {answered : Bool}
    (h : (attempts ctl cfg i id left sent : EStateM ε σ Bool) s = .ok answered s') :
    k.Tells s (fun t ms t' => Attempts cfg i id left t ms answered t') s' := by
  induction left generalizing sent s with
  | zero =>
    obtain ⟨rfl, rfl⟩ := pure_eq_ok.mp h
    exact ⟨[], k.notes_nil _, .exhausted⟩
  | succ left ih =>
    obtain ⟨_, s₁, hmark, h⟩ := bind_eq_ok.mp h
    obtain ⟨sentOff, s₂, hsend, h⟩ := bind_eq_ok.mp h
    -- an attempt stores, sends and delays; what comes next depends on the two answers
    have htried := (k.tells_mark hmark).append ((k.sendStartup ctl id _).tells hsend)
    cases sentOff with
    | error e =>
      obtain ⟨_, s₃, hlog, h⟩ := bind_eq_ok.mp h
      obtain ⟨rfl, rfl⟩ := pure_eq_ok.mp h
      obtain ⟨ms, hms, hdeeds⟩ := htried.append (k.tells_log hlog)
      exact ⟨ms, hms, .refused hdeeds⟩
    | ok _ =>
      obtain ⟨_, s₃, hdelay, h⟩ := bind_eq_ok.mp h
      obtain ⟨ms, hms, hdeeds⟩ := htried.append ((k.delay ctl _).tells hdelay)
      obtain ⟨waited, s₄, hwait, h⟩ := bind_eq_ok.mp h
      obtain ⟨ms₁, hms₁, hwaits⟩ := k.wait_waits hwait
      cases waited with
      | ok _ =>
        obtain ⟨rfl, rfl⟩ := pure_eq_ok.mp h
        exact ⟨_, k.notes_append hms hms₁, .answered hdeeds hwaits⟩
      | error _ =>
        obtain ⟨_, s₅, hlog, h⟩ := bind_eq_ok.mp h
        obtain ⟨ms₂, hms₂, hline⟩ := k.tells_log hlog
        obtain ⟨ms₃, hms₃, hagain⟩ := ih h
        exact ⟨_, k.notes_append hms (k.notes_append hms₁ (k.notes_append hms₂ hms₃)),
          .silent hdeeds hwaits hline hagain⟩

/-- A processor that does not answer is parked, or strays. -/
theorem park_performs {ctl : A} {i : Nat} {id : UInt32} {u : Unit}
    (h : (park ctl i id : EStateM ε σ Unit) s = .ok u s') :
    k.Tells s (Performs [.line, .call (.init id (.ok ())), .store i .abandoned]) s'
      ∨ ∃ e, k.Tells s
          (Performs [.line, .call (.init id (.error e)), .line, .store i .abandoned]) s' := by
  obtain ⟨_, s₁, hlog, h⟩ := bind_eq_ok.mp h
  obtain ⟨answer, s₂, hinit, h⟩ := bind_eq_ok.mp h
  have hreset := (k.tells_log hlog).append ((k.sendInit ctl id).tells hinit)
  cases answer with
  | ok _ => exact .inl (hreset.append (k.tells_mark h))
  | error e =>
    obtain ⟨_, s₃, hwarn, h⟩ := bind_eq_ok.mp h
    exact .inr ⟨e, (hreset.append (k.tells_log hwarn)).append (k.tells_mark h)⟩

/-- **One processor makes one word.** -/
theorem startOne_word {ctl : A} {cfg : BringUpConfig} {i : Nat} {id : UInt32} {online : Bool}
    (h : (startOne ctl cfg i id : EStateM ε σ Bool) s = .ok online s') :
    k.Tells s (fun t ms t' => Word cfg i id t ms online t') s' := by
  obtain ⟨prepared, s₁, hprepare, h⟩ := bind_eq_ok.mp h
  -- the cases follow the branches of the code, and each ends in its own constructor of `Word`
  have hprepared := (k.prepare ctl i id).tells hprepare
  cases prepared with
  | error e =>
    obtain ⟨_, s₂, hlog, h⟩ := bind_eq_ok.mp h
    obtain ⟨_, s₃, hmark, h⟩ := bind_eq_ok.mp h
    obtain ⟨rfl, rfl⟩ := pure_eq_ok.mp h
    obtain ⟨ms, hms, hdeeds⟩ :=
      (hprepared.append (k.tells_log hlog)).append (k.tells_mark hmark)
    exact ⟨ms, hms, .unprepared hdeeds⟩
  | ok _ =>
    obtain ⟨_, s₂, hmark, h⟩ := bind_eq_ok.mp h
    obtain ⟨answer, s₃, hinit, h⟩ := bind_eq_ok.mp h
    have hreset := (hprepared.append (k.tells_mark hmark)).append
      ((k.sendInit ctl id).tells hinit)
    cases answer with
    | error e =>
      obtain ⟨_, s₄, hlog, h⟩ := bind_eq_ok.mp h
      obtain ⟨_, s₅, hmark', h⟩ := bind_eq_ok.mp h
      obtain ⟨rfl, rfl⟩ := pure_eq_ok.mp h
      obtain ⟨ms, hms, hdeeds⟩ :=
        (hreset.append (k.tells_log hlog)).append (k.tells_mark hmark')
      exact ⟨ms, hms, .unreset hdeeds⟩
    | ok _ =>
      obtain ⟨_, s₄, hdelay, h⟩ := bind_eq_ok.mp h
      obtain ⟨ms, hms, hdeeds⟩ := hreset.append ((k.delay ctl _).tells hdelay)
      obtain ⟨answered, s₅, hattempts, h⟩ := bind_eq_ok.mp h
      obtain ⟨ms₁, hms₁, htries⟩ := k.attempts_attempts hattempts
      cases answered with
      | true =>
        obtain ⟨_, s₆, hmark', h⟩ := bind_eq_ok.mp h
        obtain ⟨_, s₇, hlog, h⟩ := bind_eq_ok.mp h
        obtain ⟨rfl, rfl⟩ := pure_eq_ok.mp h
        obtain ⟨ms₂, hms₂, hrecorded⟩ := (k.tells_mark hmark').append (k.tells_log hlog)
        exact ⟨_, k.notes_append hms (k.notes_append hms₁ hms₂), .online hdeeds htries hrecorded⟩
      | false =>
        obtain ⟨_, s₆, hpark, h⟩ := bind_eq_ok.mp h
        obtain ⟨rfl, rfl⟩ := pure_eq_ok.mp h
        rcases k.park_performs hpark with ⟨ms₂, hms₂, hparks⟩ | ⟨e, ms₂, hms₂, hparks⟩
        · exact ⟨_, k.notes_append hms (k.notes_append hms₁ hms₂), .parked hdeeds htries hparks⟩
        · exact ⟨_, k.notes_append hms (k.notes_append hms₁ hms₂), .stray hdeeds htries hparks⟩

/-! ## All processors -/

/-- **The positions of the table make a sweep.** The counters go on from where they were. -/
theorem startFrom_sweep {ctl : A} {cfg : BringUpConfig} {left index started abandoned : Nat}
    {counts : Nat × Nat}
    (h : (startFrom ctl cfg left index started abandoned : EStateM ε σ (Nat × Nat)) s
      = .ok counts s') :
    k.Tells s (fun t ms t' => ∃ more fewer, Sweep cfg left index t ms more fewer t'
      ∧ counts = (started + more, abandoned + fewer)) s' := by
  -- The table is read anew at every position; what matters is its state there at that time.
  induction left generalizing index started abandoned s with
  | zero =>
    obtain ⟨rfl, rfl⟩ := pure_eq_ok.mp h
    exact ⟨[], k.notes_nil _, 0, 0, .done, rfl⟩
  | succ left ih =>
    obtain ⟨t, s₁, hget, h⟩ := bind_eq_ok.mp h
    rw [k.get] at hget
    cases hget
    cases hfound : (k.table s).get? index with
    | none =>
      rw [hfound] at h
      obtain ⟨ms, hms, more, fewer, hsweep, hcounts⟩ := ih h
      refine ⟨ms, hms, more, fewer, .skip (fun hs => ?_) hsweep, hcounts⟩
      rw [ProcessorTable.state?, hfound] at hs
      exact nomatch hs
    | some p =>
      rw [hfound] at h
      by_cases hstate : p.state = .discovered
      · dsimp only at h
        rw [if_pos hstate] at h
        obtain ⟨online, s₂, hone, h⟩ := bind_eq_ok.mp h
        obtain ⟨ms, hms, hword⟩ := k.startOne_word hone
        cases online with
        | true =>
          obtain ⟨ms', hms', more, fewer, hsweep, hcounts⟩ := ih h
          refine ⟨_, k.notes_append hms hms', more + 1, fewer,
            .online hfound hstate hword hsweep, ?_⟩
          rw [hcounts, Nat.add_assoc, Nat.add_comm 1 more]
        | false =>
          obtain ⟨ms', hms', more, fewer, hsweep, hcounts⟩ := ih h
          refine ⟨_, k.notes_append hms hms', more, fewer + 1,
            .givenUp hfound hstate hword hsweep, ?_⟩
          rw [hcounts, Nat.add_assoc, Nat.add_comm 1 fewer]
      · dsimp only at h
        rw [if_neg hstate] at h
        obtain ⟨ms, hms, more, fewer, hsweep, hcounts⟩ := ih h
        refine ⟨ms, hms, more, fewer, .skip (fun hs => hstate ?_) hsweep, hcounts⟩
        rw [ProcessorTable.state?, hfound] at hs
        exact Option.some.inj hs

/-- **Bring-up makes a course.** -/
theorem run_course {ctl : A} {cfg : BringUpConfig} {outcome : BringUp}
    (h : (run ctl cfg : EStateM ε σ BringUp) s = .ok outcome s') :
    k.Tells s (fun t ms t' => Course cfg t ms outcome t') s' := by
  obtain ⟨t, s₁, hget, h⟩ := bind_eq_ok.mp h
  rw [k.get] at hget
  cases hget
  by_cases hfew : (k.table s).size < 2
  · dsimp only at h
    rw [if_pos hfew] at h
    obtain ⟨_, s₂, hlog, h⟩ := bind_eq_ok.mp h
    obtain ⟨rfl, rfl⟩ := pure_eq_ok.mp h
    obtain ⟨ms, hms, hline⟩ := k.tells_log hlog
    exact ⟨ms, hms, .alone hfew hline⟩
  · dsimp only at h
    rw [if_neg hfew] at h
    obtain ⟨⟨started, abandoned⟩, s₂, hstart, h⟩ := bind_eq_ok.mp h
    obtain ⟨_, s₃, hlog, h⟩ := bind_eq_ok.mp h
    obtain ⟨rfl, rfl⟩ := pure_eq_ok.mp h
    obtain ⟨ms, hms, more, fewer, hsweep, hcounts⟩ := k.startFrom_sweep hstart
    obtain ⟨rfl, rfl⟩ := Prod.mk.inj hcounts
    rw [Nat.zero_add, Nat.zero_add]
    obtain ⟨ms', hms', hline⟩ := k.tells_log hlog
    exact ⟨_, k.notes_append hms hms', .swept (Nat.le_of_not_lt hfew) hsweep hline⟩

/-! ## Stops -/

/-- Recording a state is a move that the discipline of the track allows. -/
theorem obeys_mark (i : Nat) (st : ProcessorState) :
    k.discipline.Obeys s (mark i st : EStateM ε σ Unit) := by
  obtain ⟨s', hrun, -⟩ := k.store i st s
  exact .step hrun trivial

/-- **The operations keep the discipline** of stops. -/
theorem permits (ctl : A) (cfg : BringUpConfig) (i : Nat) (id : UInt32) :
    k.discipline.Permits ctl cfg i id where
  look s := .step (k.get s) trivial
  mark st _ _ := k.obeys_mark i st
  line level text _ := (k.line level text).obeys
  sendInit _ := (k.sendInit ctl id).obeys
  sendStartup _ := (k.sendStartup ctl id _).obeys
  delay us _ := (k.delay ctl us).obeys
  relax _ := (k.relax ctl).obeys

/-- So does all that bring-up consists of. -/
theorem permitsAll (ctl : A) (cfg : BringUpConfig) : k.discipline.PermitsAll ctl cfg where
  look s := .step (k.get s) trivial
  line level text _ := (k.line level text).obeys
  one _ _ _ := (k.permits ctl cfg _ _).obeys_startOne (fun _ => (k.prepare ctl _ _).obeys) _

/-- **Nothing but an operation stops bring-up.** -/
theorem run_stops {ctl : A} {cfg : BringUpConfig} {e : ε}
    (h : (run ctl cfg : EStateM ε σ BringUp) s = .error e s') : k.stops e :=
  ((k.permitsAll ctl cfg).obeys_run s).stops h

end Tracked

end Interrupts
