import Mathlib.Data.List.Pairwise
import Interrupts.Proofs.OneShot

/-!
# What the users of a one-shot cell see of it

A cell is looked at, asked whether it is ready or claimed, and attempts are made to fill it, by
anyone and also by an initialiser that is filling it at the time. A `Client` is any such user: what
it does next may depend on every answer so far, and its initialisers are clients themselves, to any
depth. It works at a `Desk`, which keeps the cell and a log of what happened, each event together
with the cell as it was then.

The main statement is that the log of every client is a `Story`. Up to the first attempt the cell is
unclaimed; the first attempt runs its initialiser, and no other ever does; and from then on the cell
answers whatever that initialiser left in it.
-/

namespace Interrupts.OneShot

variable {α ε ρ : Type}

/-! ## Clients -/

/-- **A user of a cell**, who comes to a result. An attempt has a name, to tell it from others in the
log. -/
inductive Client (α ε : Type) : Type → Type 1 where
  /-- The client has come to its result. -/
  | done {ρ : Type} (result : ρ) : Client α ε ρ
  /-- It asks for the value, and goes on with it or without. -/
  | get {ρ : Type} (next : Option α → Client α ε ρ) : Client α ε ρ
  /-- It asks whether there is a value. -/
  | isReady {ρ : Type} (next : Bool → Client α ε ρ) : Client α ε ρ
  /-- It asks whether anybody has tried. -/
  | isClaimed {ρ : Type} (next : Bool → Client α ε ρ) : Client α ε ρ
  /-- It tries with an initialiser that cannot fail. The initialiser is a client too, and may use
  the very cell. -/
  | init {ρ : Type} (name : Nat) (initialiser : Client α ε α) (next : Option α → Client α ε ρ) :
    Client α ε ρ
  /-- It tries with one that can. -/
  | tryInit {ρ : Type} (name : Nat) (initialiser : Client α ε (Except ε α))
    (next : Except (InitError ε) α → Client α ε ρ) : Client α ε ρ

/-- **What can happen to a cell.** -/
inductive Event (α ε : Type) where
  /-- Somebody asked for the value. -/
  | got (answer : Option α)
  /-- Somebody asked whether there is one. -/
  | wasReady (answer : Bool)
  /-- Somebody asked whether anybody has tried. -/
  | wasClaimed (answer : Bool)
  /-- An attempt is made. -/
  | tried (name : Nat)
  /-- The initialiser of an attempt begins to run. -/
  | began (name : Nat)
  /-- It returns. -/
  | ended (name : Nat) (result : Except ε α)
  /-- The attempt is over, with this reply. -/
  | replied (name : Nat) (reply : Except (InitError ε) α)

/-- An initialiser begins to run. -/
def Event.isBegin : Event α ε → Bool
  | began _ => true
  | _ => false

/-- **An event, and the cell at that time.** -/
structure Moment (α ε : Type) where
  cell : OneShot α
  event : Event α ε

/-- **A cell, and what happened to it so far.** -/
structure Desk (α ε : Type) where
  cell : OneShot α := .unclaimed
  log : List (Moment α ε) := []

/-- The monad of a client at a desk. -/
abbrev DeskM (α ε : Type) := EStateM Stop (Desk α ε)

namespace Desk

/-- The cell of the desk. -/
def slot : Slot (DeskM α ε) α where
  look := do pure (← get).cell
  put c := modify fun d => { d with cell := c }

theorem isCell_slot :
    Slot.IsCell (slot (α := α) (ε := ε)) Desk.cell fun c d => { d with cell := c } where
  look _ := rfl
  put _ _ := rfl

end Desk

/-- Write an event into the log of the desk. -/
def happens (e : Event α ε) : DeskM α ε Unit :=
  modify fun d => { d with log := d.log ++ [⟨d.cell, e⟩] }

/-- The reply to an attempt that cannot fail, as one to an attempt that can. -/
def replyOf : Option α → Except (InitError ε) α
  | some a => .ok a
  | none => .error .alreadyInitialized

namespace Desk

/-- An attempt that cannot fail, with the log of it. -/
def init (name : Nat) (initialiser : DeskM α ε α) : DeskM α ε (Option α) := do
  happens (.tried name)
  let reply ← slot.init do
    happens (.began name)
    let value ← initialiser
    happens (.ended name (.ok value))
    pure value
  happens (.replied name (replyOf reply))
  pure reply

/-- An attempt that can fail, with the log of it. -/
def tryInit (name : Nat) (initialiser : DeskM α ε (Except ε α)) :
    DeskM α ε (Except (InitError ε) α) := do
  happens (.tried name)
  let reply ← slot.tryInit do
    happens (.began name)
    let result ← initialiser
    happens (.ended name result)
    pure result
  happens (.replied name reply)
  pure reply

end Desk

/-- **Let a client work at the desk.** -/
def Client.run : {ρ : Type} → Client α ε ρ → DeskM α ε ρ
  | _, .done result => pure result
  | _, .get next => do
    let answer := (← Desk.slot.look).get?
    happens (.got answer)
    (next answer).run
  | _, .isReady next => do
    let answer := (← Desk.slot.look).isReady
    happens (.wasReady answer)
    (next answer).run
  | _, .isClaimed next => do
    let answer := (← Desk.slot.look).isClaimed
    happens (.wasClaimed answer)
    (next answer).run
  | _, .init name initialiser next => do (next (← Desk.init name initialiser.run)).run
  | _, .tryInit name initialiser next => do (next (← Desk.tryInit name initialiser.run)).run

/-! ## Stories -/

/-- **Nobody fills the cell at this moment.** It is the given cell, and what it answers is whether
there was an attempt and which value there is; an attempt is refused, and its initialiser does not
run. -/
def Moment.IsQuiet (cell : OneShot α) (claimed : Bool) (value : Option α) (m : Moment α ε) : Prop :=
  m.cell = cell ∧ match m.event with
    | .got answer => answer = value
    | .wasReady answer => answer = value.isSome
    | .wasClaimed answer => answer = claimed
    | .tried _ => claimed = true
    | .began _ => False
    | .ended _ _ => False
    | .replied _ reply => reply = .error .alreadyInitialized

/-- **The attempt that counts**: its initialiser runs, things happen meanwhile, and it returns. -/
def attempt (name : Nat) (inside : List (Moment α ε)) (result : Except ε α) : List (Moment α ε) :=
  ⟨.unclaimed, .tried name⟩ :: ⟨.running, .began name⟩ :: (inside
    ++ [⟨.running, .ended name result⟩, ⟨settled result, .replied name (result.mapError .failed)⟩])

/-- **The story of a cell**, with the cell at its end. -/
inductive Story : List (Moment α ε) → OneShot α → Prop
  /-- There was no attempt. -/
  | untried {before : List (Moment α ε)}
      (hbefore : ∀ m ∈ before, m.IsQuiet .unclaimed false none) : Story before .unclaimed
  /-- There was a first attempt. Until its initialiser has returned, there is no value; afterwards
  there is the value that it returned, and none if it failed. -/
  | tried {before inside after : List (Moment α ε)} {name : Nat} {result : Except ε α}
      (hbefore : ∀ m ∈ before, m.IsQuiet .unclaimed false none)
      (hinside : ∀ m ∈ inside, m.IsQuiet .running true none)
      (hafter : ∀ m ∈ after, m.IsQuiet (settled result) true result.toOption) :
      Story (before ++ (attempt name inside result ++ after)) (settled result)

namespace Story

variable {story : List (Moment α ε)} {cell : OneShot α} {m : Moment α ε}

/-- A moment that only looks at the unclaimed cell goes in front of any story. -/
theorem cons (hm : m.IsQuiet .unclaimed false none) (h : Story story cell) :
    Story (m :: story) cell := by
  cases h with
  | untried hbefore => exact .untried (List.forall_mem_cons.mpr ⟨hm, hbefore⟩)
  | tried hbefore hinside hafter =>
    exact .tried (List.forall_mem_cons.mpr ⟨hm, hbefore⟩) hinside hafter

theorem isBegin_of_isQuiet {claimed : Bool} {value : Option α} (hm : m.IsQuiet cell claimed value) :
    m.event.isBegin = false := by
  obtain ⟨c, e⟩ := m
  cases e <;> first | rfl | exact hm.2.elim

/-- Where every moment only looks, nothing begins. -/
theorem countP_of_isQuiet {claimed : Bool} {value : Option α}
    (h : ∀ m ∈ story, m.IsQuiet cell claimed value) :
    story.countP (fun m => m.event.isBegin) = 0 :=
  List.countP_eq_zero.mpr fun m hm => by
    rw [isBegin_of_isQuiet (h m hm)]
    exact Bool.false_ne_true

/-- **At most one initialiser ever runs.** -/
theorem countP_isBegin_le (h : Story story cell) :
    story.countP (fun m => m.event.isBegin) ≤ 1 := by
  cases h with
  | untried hbefore => rw [countP_of_isQuiet hbefore]; exact Nat.zero_le 1
  | tried hbefore hinside hafter =>
    rw [List.countP_append, List.countP_append, countP_of_isQuiet hbefore,
      countP_of_isQuiet hafter, attempt, List.countP_cons, List.countP_cons, List.countP_append,
      countP_of_isQuiet hinside]
    exact Nat.le_refl 1

/-- A moment at which the cell has no value shows none. -/
theorem got_ne_of_isQuiet {claimed : Bool} (hm : m.IsQuiet cell claimed none) (a : α) :
    m.event ≠ .got (some a) := by
  intro h
  obtain ⟨-, hevent⟩ := hm
  rw [h] at hevent
  exact nomatch hevent

/-- During the attempt that counts no value is seen. -/
theorem got_ne_of_mem_attempt {name : Nat} {inside : List (Moment α ε)} {result : Except ε α}
    (hinside : ∀ m ∈ inside, m.IsQuiet .running true none) (hm : m ∈ attempt name inside result)
    (a : α) : m.event ≠ .got (some a) := by
  simp only [attempt, List.mem_cons, List.mem_append, List.not_mem_nil, or_false] at hm
  rcases hm with rfl | rfl | hm | rfl | rfl
  · exact nofun
  · exact nofun
  · exact got_ne_of_isQuiet (hinside m hm) a
  · exact nofun
  · exact nofun

/-- **A value that is seen once is the one that is seen from then on**, and it is in the cell at the
end. -/
theorem pairwise_got (h : Story story cell) :
    (story.Pairwise fun m m' => ∀ a answer, m.event = .got (some a) → m'.event = .got answer →
        answer = some a)
      ∧ ∀ m ∈ story, ∀ a, m.event = .got (some a) → cell = .ready a := by
  cases h with
  | untried hbefore =>
    have hnone : ∀ m ∈ story, ∀ a, m.event ≠ .got (some a) :=
      fun m hm => got_ne_of_isQuiet (hbefore m hm)
    exact ⟨List.pairwise_of_forall_mem_list fun m hm _ _ a _ h => absurd h (hnone m hm a),
      fun m hm a h => absurd h (hnone m hm a)⟩
  | @tried before inside after name result hbefore hinside hafter =>
    -- A value is seen only after the attempt, where it is the value that was returned.
    have hnone : ∀ m ∈ before ++ attempt name inside result, ∀ a, m.event ≠ .got (some a) := by
      intro m hm
      rcases List.mem_append.mp hm with hm | hm
      · exact got_ne_of_isQuiet (hbefore m hm)
      · exact got_ne_of_mem_attempt hinside hm
    have hsome : ∀ m ∈ after, ∀ answer, m.event = .got answer → answer = result.toOption := by
      intro m hm answer h
      obtain ⟨-, hevent⟩ := hafter m hm
      rwa [h] at hevent
    rw [← List.append_assoc]
    refine ⟨List.pairwise_append.mpr ⟨?_, ?_, ?_⟩, ?_⟩
    · exact List.pairwise_of_forall_mem_list fun m hm _ _ a _ h => absurd h (hnone m hm a)
    · refine List.pairwise_of_forall_mem_list fun m hm m' hm' a answer h h' => ?_
      rw [hsome m' hm' answer h', ← hsome m hm _ h]
    · exact fun m hm _ _ a _ h => absurd h (hnone m hm a)
    · intro m hm a h
      rcases List.mem_append.mp hm with hm | hm
      · exact absurd h (hnone m hm a)
      · have hvalue := hsome m hm _ h
        cases result with
        | ok b => exact congrArg OneShot.ready (Option.some.inj hvalue).symm
        | error e => exact nomatch hvalue

end Story

/-! ## Attempts -/

namespace Desk

variable {cell : OneShot α} {log inside : List (Moment α ε)} (name : Nat)

theorem happens_apply (e : Event α ε) :
    happens e ⟨cell, log⟩ = .ok () ⟨cell, log ++ [⟨cell, e⟩]⟩ :=
  rfl

/-- What is seen of an attempt on a claimed cell. -/
def refusal (cell : OneShot α) (name : Nat) : List (Moment α ε) :=
  [⟨cell, .tried name⟩, ⟨cell, .replied name (.error .alreadyInitialized)⟩]

/-- **An attempt on a claimed cell is refused**, and its initialiser does not run. -/
theorem tryInit_of_claimed (h : cell.isClaimed = true) (initialiser : DeskM α ε (Except ε α)) :
    tryInit name initialiser ⟨cell, log⟩
      = .ok (.error .alreadyInitialized) ⟨cell, log ++ refusal cell name⟩ := by
  unfold tryInit
  rw [bind_of_ok (happens_apply _), bind_of_ok (Slot.tryInit_of_claimed isCell_slot h _),
    bind_of_ok (happens_apply _), List.append_assoc]
  rfl

/-- An `init` on a claimed cell is refused, and the cell stays as it is. -/
theorem init_of_claimed (h : cell.isClaimed = true) (initialiser : DeskM α ε α) :
    init name initialiser ⟨cell, log⟩ = .ok none ⟨cell, log ++ refusal cell name⟩ := by
  unfold init
  rw [bind_of_ok (happens_apply _), bind_of_ok (Slot.init_of_claimed isCell_slot h _),
    bind_of_ok (happens_apply _), List.append_assoc]
  rfl

/-- What is seen of the attempt on an unclaimed cell before the initialiser runs. -/
def opening (name : Nat) : List (Moment α ε) :=
  [⟨.unclaimed, .tried name⟩, ⟨.running, .began name⟩]

/-- An initialiser, with the log of it. -/
theorem initialiser_runs {β : Type} {x : DeskM α ε β} {b : β} (result : β → Except ε α)
    (h : x ⟨.running, log ++ opening name⟩ = .ok b ⟨.running, log ++ opening name ++ inside⟩) :
    (do happens (.began name); let b ← x; happens (.ended name (result b)); pure b : DeskM α ε β)
        ⟨.running, log ++ [⟨.unclaimed, .tried name⟩]⟩
      = .ok b ⟨.running,
        log ++ opening name ++ inside ++ [⟨.running, .ended name (result b)⟩]⟩ := by
  rw [bind_of_ok (happens_apply _), List.append_assoc]
  exact (bind_of_ok h).trans (bind_of_ok (happens_apply _))

/-- **The attempt on an unclaimed cell runs its initialiser.** -/
theorem tryInit_of_unclaimed {initialiser : DeskM α ε (Except ε α)} {result : Except ε α}
    (h : initialiser ⟨.running, log ++ opening name⟩
      = .ok result ⟨.running, log ++ opening name ++ inside⟩) :
    tryInit name initialiser ⟨.unclaimed, log⟩ = .ok (result.mapError .failed)
      ⟨settled result, log ++ attempt name inside result⟩ := by
  have hfilled := Slot.tryInit_of_unclaimed isCell_slot
    (s := ⟨.unclaimed, log ++ [⟨.unclaimed, .tried name⟩]⟩) rfl (initialiser_runs name id h)
  unfold tryInit
  rw [bind_of_ok (happens_apply _)]
  refine (bind_of_ok hfilled).trans ?_
  rw [bind_of_ok (happens_apply _)]
  simp only [List.append_assoc]
  rfl

/-- An `init` on an unclaimed cell runs its initialiser and stores the value. -/
theorem init_of_unclaimed {initialiser : DeskM α ε α} {value : α}
    (h : initialiser ⟨.running, log ++ opening name⟩
      = .ok value ⟨.running, log ++ opening name ++ inside⟩) :
    init name initialiser ⟨.unclaimed, log⟩ = .ok (some value)
      ⟨.ready value, log ++ attempt name inside (.ok value)⟩ := by
  have hfilled := Slot.init_of_unclaimed isCell_slot
    (s := ⟨.unclaimed, log ++ [⟨.unclaimed, .tried name⟩]⟩) rfl
    (initialiser_runs name Except.ok h)
  unfold init
  rw [bind_of_ok (happens_apply _)]
  refine (bind_of_ok hfilled).trans ?_
  rw [bind_of_ok (happens_apply _)]
  simp only [List.append_assoc]
  rfl

end Desk

/-! ## Every client has a story -/

namespace Client

open Desk

/-- **At a claimed cell nothing happens to it**, whatever a client does. -/
theorem run_of_claimed (c : Client α ε ρ) {cell : OneShot α} (hclaimed : cell.isClaimed = true)
    (log : List (Moment α ε)) : ∃ r quiet, c.run ⟨cell, log⟩ = .ok r ⟨cell, log ++ quiet⟩
      ∧ ∀ m ∈ quiet, m.IsQuiet cell true cell.get? := by
  -- every attempt is refused, so by induction on the client the cell stays as it is
  have hready : cell.isReady = cell.get?.isSome := by cases cell <;> rfl
  induction c generalizing log with
  | done result => exact ⟨result, [], by rw [List.append_nil]; rfl, nofun⟩
  | get next ih =>
    obtain ⟨r, quiet, hrun, hquiet⟩ := ih cell.get? (log ++ [⟨cell, .got cell.get?⟩])
    rw [List.append_assoc] at hrun
    exact ⟨r, _, hrun, List.forall_mem_cons.mpr ⟨⟨rfl, rfl⟩, hquiet⟩⟩
  | isReady next ih =>
    obtain ⟨r, quiet, hrun, hquiet⟩ := ih cell.isReady (log ++ [⟨cell, .wasReady cell.isReady⟩])
    rw [List.append_assoc] at hrun
    exact ⟨r, _, hrun, List.forall_mem_cons.mpr ⟨⟨rfl, hready⟩, hquiet⟩⟩
  | isClaimed next ih =>
    obtain ⟨r, quiet, hrun, hquiet⟩ :=
      ih cell.isClaimed (log ++ [⟨cell, .wasClaimed cell.isClaimed⟩])
    rw [List.append_assoc] at hrun
    exact ⟨r, _, hrun, List.forall_mem_cons.mpr ⟨⟨rfl, hclaimed⟩, hquiet⟩⟩
  | init name initialiser next _ ih =>
    obtain ⟨r, quiet, hrun, hquiet⟩ := ih none (log ++ refusal cell name)
    rw [List.append_assoc] at hrun
    exact ⟨r, _, (bind_of_ok (init_of_claimed name hclaimed _)).trans hrun,
      List.forall_mem_cons.mpr ⟨⟨rfl, rfl⟩, List.forall_mem_cons.mpr ⟨⟨rfl, rfl⟩, hquiet⟩⟩⟩
  | tryInit name initialiser next _ ih =>
    obtain ⟨r, quiet, hrun, hquiet⟩ :=
      ih (.error .alreadyInitialized) (log ++ refusal cell name)
    rw [List.append_assoc] at hrun
    exact ⟨r, _, (bind_of_ok (tryInit_of_claimed name hclaimed _)).trans hrun,
      List.forall_mem_cons.mpr ⟨⟨rfl, rfl⟩, List.forall_mem_cons.mpr ⟨⟨rfl, rfl⟩, hquiet⟩⟩⟩

/-- After the attempt that counts, the cell is claimed, with the value that was returned. -/
theorem run_of_settled (c : Client α ε ρ) (result : Except ε α) (log : List (Moment α ε)) :
    ∃ r after, c.run ⟨settled result, log⟩ = .ok r ⟨settled result, log ++ after⟩
      ∧ ∀ m ∈ after, m.IsQuiet (settled result) true result.toOption := by
  cases result with
  | ok a => exact c.run_of_claimed (show (ready a).isClaimed = true from rfl) log
  | error e => exact c.run_of_claimed (show (failed : OneShot α).isClaimed = true from rfl) log

/-- **At an unclaimed cell a client continues the log with a story.** -/
theorem run_of_unclaimed (c : Client α ε ρ) (log : List (Moment α ε)) :
    ∃ r cell story, c.run ⟨.unclaimed, log⟩ = .ok r ⟨cell, log ++ story⟩ ∧ Story story cell := by
  -- up to the first attempt the cell is unclaimed; inside its initialiser it is running and so
  -- claimed, and what comes after meets a settled cell
  have hrunning : (running : OneShot α).isClaimed = true := rfl
  induction c generalizing log with
  | done result => exact ⟨result, _, [], by rw [List.append_nil]; rfl, .untried nofun⟩
  | get next ih =>
    obtain ⟨r, cell, story, hrun, hstory⟩ := ih none (log ++ [⟨.unclaimed, .got none⟩])
    rw [List.append_assoc] at hrun
    exact ⟨r, cell, _, hrun, hstory.cons ⟨rfl, rfl⟩⟩
  | isReady next ih =>
    obtain ⟨r, cell, story, hrun, hstory⟩ := ih false (log ++ [⟨.unclaimed, .wasReady false⟩])
    rw [List.append_assoc] at hrun
    exact ⟨r, cell, _, hrun, hstory.cons ⟨rfl, rfl⟩⟩
  | isClaimed next ih =>
    obtain ⟨r, cell, story, hrun, hstory⟩ := ih false (log ++ [⟨.unclaimed, .wasClaimed false⟩])
    rw [List.append_assoc] at hrun
    exact ⟨r, cell, _, hrun, hstory.cons ⟨rfl, rfl⟩⟩
  | init name initialiser next _ _ =>
    obtain ⟨value, inside, hinitialiser, hinside⟩ :=
      initialiser.run_of_claimed hrunning (log ++ opening name)
    obtain ⟨r, after, hrun, hafter⟩ :=
      (next (some value)).run_of_settled (.ok value) (log ++ attempt name inside (.ok value))
    rw [List.append_assoc] at hrun
    exact ⟨r, _, _, (bind_of_ok (init_of_unclaimed name hinitialiser)).trans hrun,
      @Story.tried α ε [] _ _ name (.ok value) nofun hinside hafter⟩
  | tryInit name initialiser next _ _ =>
    obtain ⟨result, inside, hinitialiser, hinside⟩ :=
      initialiser.run_of_claimed hrunning (log ++ opening name)
    obtain ⟨r, after, hrun, hafter⟩ :=
      (next (result.mapError .failed)).run_of_settled result (log ++ attempt name inside result)
    rw [List.append_assoc] at hrun
    exact ⟨r, _, _, (bind_of_ok (tryInit_of_unclaimed name hinitialiser)).trans hrun,
      @Story.tried α ε [] _ _ name result nofun hinside hafter⟩

/-- **A cell is filled at most once**, whatever is done to it, and however deep inside an
initialiser. Every client of a fresh cell comes to its result, and its log is a story: at most one
initialiser runs, the one of the first attempt, and every other attempt is refused. A value that is
seen once is seen from then on, and is the one in the cell at the end. When the cell goes away it
releases its value if it has one, once, and nothing otherwise. -/
theorem run_isStory (c : Client α ε ρ) :
    ∃ r d, c.run {} = .ok r d ∧ Story d.log d.cell
      ∧ d.log.countP (fun m => m.event.isBegin) ≤ 1
      ∧ (d.log.Pairwise fun m m' => ∀ a answer, m.event = .got (some a) → m'.event = .got answer →
        answer = some a)
      ∧ (∀ m ∈ d.log, ∀ a, m.event = .got (some a) → d.cell = .ready a)
      ∧ (∀ a, d.cell = .ready a → d.cell.released = [a])
      ∧ (d.cell.isReady = false → d.cell.released = []) := by
  obtain ⟨r, cell, story, hrun, hstory⟩ := c.run_of_unclaimed []
  rw [List.nil_append] at hrun
  obtain ⟨hpairwise, hready⟩ := hstory.pairwise_got
  refine ⟨r, ⟨cell, story⟩, hrun, hstory, hstory.countP_isBegin_le, hpairwise, hready, ?_, ?_⟩
  · rintro a (rfl : cell = .ready a)
    rfl
  · cases cell with
    | ready a => exact nofun
    | _ => exact fun _ => rfl

end Client

end Interrupts.OneShot
