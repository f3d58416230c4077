import Interrupts.Proofs.Processor.Rig
import Interrupts.Proofs.Processor.Settling
import Mathlib.Data.List.Forall2

/-!
# The calls of bring-up

What the hardware sees of bring-up is a list of calls. This module says which lists it can be, and
nothing but the calls, their answers and the table at the time appears in that: `CallWord` is the
grammar of the calls for one processor, and the calls of a whole run are the words of the pending
processors one after the other.

The table that a call finds and the one that it leaves are part of its step. Between two calls no
flag changes, so that a look at a flag sees what the call before it left.
-/

namespace Interrupts

/-! ## Steps -/

/-- **A call to the hardware side**, with the table when it was made and when it returned. -/
structure ApStep where
  call : ApCall
  before : ProcessorTable
  after : ProcessorTable

/-- The call in a move, if it is one. -/
def ApMove.step? (m : ApMove) : Option ApStep :=
  match m.act with
  | .call c => some ⟨c, m.before, m.after⟩
  | .store => none
  | .line => none

/-- The calls among the moves, in order. -/
def steps (ms : List ApMove) : List ApStep :=
  ms.filterMap ApMove.step?

@[simp] theorem steps_append (ms ms' : List ApMove) : steps (ms ++ ms') = steps ms ++ steps ms' :=
  List.filterMap_append

/-- What the looks at a flag see that follow these calls. -/
def looks (i : Nat) (w : List ApStep) : List Bool :=
  w.map fun x => x.after.isStarted i

/-! ## What moves leave alone -/

/-- **The move does what it says**: it stores a state at one of certain positions, or it raises
flags. -/
inductive ApMove.Lawful (P : Nat → Prop) : ApMove → Prop
  /-- Bring-up stores the state of a processor that it may. -/
  | store {j : Nat} {s : ProcessorState} {t : ProcessorTable} (inside : P j) :
      Lawful P ⟨.store, t, t.setState j s⟩
  /-- Whatever else is done, only flags may go up meanwhile. -/
  | raise {act : ApAct} {t t' : ProcessorTable} (other : act ≠ .store) (raises : t.Raises t') :
      Lawful P ⟨act, t, t'⟩

namespace ApMove.Lawful

variable {P : Nat → Prop} {m : ApMove}

/-- A move that may write certain positions may write more of them. -/
theorem mono {Q : Nat → Prop} (h : m.Lawful P) (hPQ : ∀ j, P j → Q j) : m.Lawful Q := by
  cases h with
  | store inside => exact .store (hPQ _ inside)
  | raise other raises => exact .raise other raises

/-- A lawful move keeps the identifiers of the table. -/
theorem ids (h : m.Lawful P) : m.after.ids = m.before.ids := by
  cases h with
  | store => exact ProcessorTable.ids_setState _ _ _
  | raise _ raises => exact raises.ids

/-- A lawful move keeps the state of every processor that it may not write. -/
theorem state? (h : m.Lawful P) {j : Nat} (hj : ¬P j) : m.after.state? j = m.before.state? j := by
  cases h with
  | store inside => exact ProcessorTable.state?_setState_of_ne _ fun heq => hj (heq ▸ inside)
  | raise _ raises => exact raises.state? j

/-- A store raises no flag and clears none. -/
theorem isStarted (h : m.Lawful P) (hstore : m.act = .store) (j : Nat) :
    m.after.isStarted j = m.before.isStarted j := by
  cases h with
  | store => exact ProcessorTable.isStarted_setState _ _ _ _
  | raise other _ => exact absurd hstore other

/-- No move lowers a flag. -/
theorem keepsUp (h : m.Lawful P) {j : Nat} (hj : m.before.isStarted j = true) :
    m.after.isStarted j = true := by
  cases h with
  | store => exact (ProcessorTable.isStarted_setState _ _ _ _).trans hj
  | raise _ raises => exact raises.isStarted j hj

end ApMove.Lawful

/-- The deed stores at one of certain positions, if it stores. -/
@[simp] def ApDeed.StoresIn (P : Nat → Prop) : ApDeed → Prop
  | .call _ => True
  | .store j _ => P j
  | .line => True

section Lawful

variable {cfg : BringUpConfig} {i : Nat} {id : UInt32} {t t' : ProcessorTable} {ms : List ApMove}

/-- Deeds that store within a set of processors make lawful moves for that set. -/
theorem Performs.lawful {P : Nat → Prop} {deeds : List ApDeed} (h : Performs deeds t ms t')
    (hdeeds : ∀ d ∈ deeds, d.StoresIn P) : ∀ m ∈ ms, m.Lawful P := by
  induction h with
  | nil => exact fun _ hm => absurd hm List.not_mem_nil
  | call raises _ ih =>
    exact List.forall_mem_cons.mpr ⟨.raise nofun raises, ih (List.forall_mem_cons.mp hdeeds).2⟩
  | store _ ih =>
    obtain ⟨hhead, htail⟩ := List.forall_mem_cons.mp hdeeds
    exact List.forall_mem_cons.mpr ⟨.store hhead, ih htail⟩
  | line raises _ ih =>
    exact List.forall_mem_cons.mpr ⟨.raise nofun raises, ih (List.forall_mem_cons.mp hdeeds).2⟩

/-- Waiting for a processor stores nothing. -/
theorem Waits.lawful {left : Nat} {seen : Bool} (h : Waits i left t ms seen t') :
    ∀ m ∈ ms, m.Lawful (· = i) := by
  induction h with
  | seen => exact fun _ hm => absurd hm List.not_mem_nil
  | unseen => exact fun _ hm => absurd hm List.not_mem_nil
  | relax _ step _ ih => exact List.forall_mem_append.mpr ⟨step.lawful (by simp), ih⟩

/-- The attempts for a processor store its own state only. -/
theorem Attempts.lawful {left : Nat} {answered : Bool}
    (h : Attempts cfg i id left t ms answered t') : ∀ m ∈ ms, m.Lawful (· = i) := by
  induction h with
  | exhausted => exact fun _ hm => absurd hm List.not_mem_nil
  | refused tried => exact tried.lawful (by simp)
  | answered tried waits =>
    exact List.forall_mem_append.mpr ⟨tried.lawful (by simp), waits.lawful⟩
  | silent tried waits reports _ ih =>
    simp only [List.forall_mem_append]
    exact ⟨tried.lawful (by simp), waits.lawful, reports.lawful (by simp), ih⟩

/-- The whole word of a processor stores its own state only. -/
theorem Word.lawful {online : Bool} (h : Word cfg i id t ms online t') :
    ∀ m ∈ ms, m.Lawful (· = i) := by
  cases h with
  | unprepared moves => exact moves.lawful (by simp)
  | unreset moves => exact moves.lawful (by simp)
  | online reset answers recorded =>
    simp only [List.forall_mem_append]
    exact ⟨reset.lawful (by simp), answers.lawful, recorded.lawful (by simp)⟩
  | parked reset silent parks =>
    simp only [List.forall_mem_append]
    exact ⟨reset.lawful (by simp), silent.lawful, parks.lawful (by simp)⟩
  | stray reset silent parks =>
    simp only [List.forall_mem_append]
    exact ⟨reset.lawful (by simp), silent.lawful, parks.lawful (by simp)⟩

end Lawful

/-! ## The grammar -/

section Grammar

variable (cfg : BringUpConfig) (i : Nat) (id : UInt32)

/-- **A STARTUP that was granted**: the processor is given time, and then its flag is looked at,
once before each relaxing step and once after the last one. No look but the last sees it up. -/
structure Attempt (relaxes : Nat) (seen : Bool) (w : List ApStep) : Prop where
  /-- The STARTUP, the time it is given, and the relaxing steps of the wait. -/
  calls : w.map ApStep.call = .startup id cfg.startPage (.ok ()) :: .delay cfg.startupDelay
    :: List.replicate relaxes .relax
  /-- One look more than there are relaxing steps, all but the last in vain. -/
  looks : looks i w.tail = List.replicate relaxes false ++ [seen]

/-- **How the STARTUPs end**, of which there are at most `most`, after some that went unanswered. -/
inductive Ending (most : Nat) : (unanswered : Nat) → (online : Bool) → List ApStep → Prop
  /-- The flag is seen within the budget of the wait. -/
  | answered {n relaxes : Nat} {w : List ApStep} (more : n < most)
      (soon : relaxes ≤ cfg.startupWait.polls.toNat) (attempt : Attempt cfg i id relaxes true w) :
      Ending most n true w
  /-- The next STARTUP is refused. -/
  | refused {n : Nat} {e : BringUpError} {w : List ApStep} (more : n < most)
      (calls : w.map ApStep.call = [.startup id cfg.startPage (.error e)]) : Ending most n false w
  /-- There is no STARTUP left. -/
  | exhausted : Ending most most false []

/-- **The calls for one processor**, and whether it came online. -/
inductive CallWord : (online : Bool) → List ApStep → Prop
  /-- There is no stack for it, or no parameters. -/
  | unprepared {e : BringUpError} {w : List ApStep}
      (calls : w.map ApStep.call = [.prepare i id (.error e)]) : CallWord false w
  /-- It cannot be reset. -/
  | unreset {e : BringUpError} {w : List ApStep}
      (calls : w.map ApStep.call = [.prepare i id (.ok ()), .init id (.error e)]) :
      CallWord false w
  /-- It answers one of the STARTUPs. -/
  | online {reset last : List ApStep} {silent : List (List ApStep)}
      (resets : reset.map ApStep.call
        = [.prepare i id (.ok ()), .init id (.ok ()), .delay cfg.initDelay])
      (silences : ∀ w ∈ silent, Attempt cfg i id cfg.startupWait.polls.toNat false w)
      (ends : Ending cfg i id (if cfg.secondStartup then 2 else 1) silent.length true last) :
      CallWord true (reset ++ (silent.flatten ++ last))
  /-- It answers none of them, and is sent one more INIT, whatever comes of that. -/
  | parked {reset last : List ApStep} {silent : List (List ApStep)} {parking : ApStep}
      {answer : Except BringUpError Unit}
      (resets : reset.map ApStep.call
        = [.prepare i id (.ok ()), .init id (.ok ()), .delay cfg.initDelay])
      (silences : ∀ w ∈ silent, Attempt cfg i id cfg.startupWait.polls.toNat false w)
      (ends : Ending cfg i id (if cfg.secondStartup then 2 else 1) silent.length false last)
      (parks : parking.call = .init id answer) :
      CallWord false (reset ++ (silent.flatten ++ (last ++ [parking])))

end Grammar

/-! ## One processor -/

section OneProcessor

variable {cfg : BringUpConfig} {i : Nat} {id : UInt32} {t t' : ProcessorTable} {ms : List ApMove}

/-- The call in a deed, if it is one. -/
@[simp] def ApDeed.call? : ApDeed → Option ApCall
  | .call c => some c
  | .store _ _ => none
  | .line => none

/-- The calls of a straight line of deeds are the calls among the deeds. -/
theorem Performs.calls {deeds : List ApDeed} (h : Performs deeds t ms t') :
    (steps ms).map ApStep.call = deeds.filterMap ApDeed.call? := by
  induction h with
  | nil => rfl
  | call _ _ ih => exact congrArg (_ :: ·) ih
  | store _ ih => exact ih
  | line _ _ ih => exact ih

/-- **The relaxing steps of a wait** come after looks that see nothing, and a wait that gives up
uses them all. -/
theorem Waits.steps {left : Nat} {seen : Bool} (h : Waits i left t ms seen t') :
    ∃ n ≤ left, (seen = false → n = left)
      ∧ (steps ms).map ApStep.call = List.replicate n .relax
      ∧ t.isStarted i :: looks i (steps ms) = List.replicate n false ++ [seen] := by
  induction h with
  | seen flag => exact ⟨0, Nat.zero_le _, nofun, rfl, congrArg (· :: []) flag⟩
  | unseen flag => exact ⟨0, Nat.le_refl _, fun _ => rfl, rfl, congrArg (· :: []) flag⟩
  -- each turn looks first and relaxes after, so there is one look more than there are relaxes
  | relax flag step _ ih =>
    obtain ⟨n, hn, hleft, hcalls, hlooks⟩ := ih
    cases step with
    | call _ rest =>
      cases rest
      exact ⟨n + 1, Nat.succ_le_succ hn, fun hseen => congrArg (· + 1) (hleft hseen),
        congrArg (_ :: ·) hcalls, congrArg₂ List.cons flag hlooks⟩

/-- The looks of a wait go on from the delay that comes before it. -/
theorem Performs.looks_tried {c c' : ApCall} {s : ProcessorState}
    (h : Performs [.store i s, .call c, .call c'] t ms t') :
    looks i (steps ms).tail = [t'.isStarted i] := by
  cases h with
  | store rest =>
    cases rest with
    | call _ rest =>
      cases rest with
      | call _ rest =>
        cases rest
        rfl

/-- A STARTUP and the wait after it make an attempt. -/
theorem attempt_of_waits {t₁ : ProcessorTable} {ms₁ : List ApMove} {seen : Bool}
    (tried : Performs [.store i .startupSent, .call (.startup id cfg.startPage (.ok ())),
      .call (.delay cfg.startupDelay)] t ms t₁)
    (waits : Waits i cfg.startupWait.polls.toNat t₁ ms₁ seen t') :
    ∃ n ≤ cfg.startupWait.polls.toNat, (seen = false → n = cfg.startupWait.polls.toNat)
      ∧ Attempt cfg i id n seen (steps (ms ++ ms₁)) := by
  obtain ⟨n, hn, hleft, hcalls, hlooks⟩ := waits.steps
  have hnonempty : steps ms ≠ [] := fun h => nomatch h ▸ tried.calls
  refine ⟨n, hn, hleft, ?_, ?_⟩
  · rw [steps_append, List.map_append, tried.calls, hcalls]
    rfl
  · rw [steps_append, List.tail_append_of_ne_nil hnonempty, looks, List.map_append]
    exact (congrArg (· ++ _) tried.looks_tried).trans hlooks

/-- With one more STARTUP to go, one more may go unanswered. -/
theorem Ending.succ {most n : Nat} {online : Bool} {w : List ApStep}
    (h : Ending cfg i id most n online w) : Ending cfg i id (most + 1) (n + 1) online w := by
  cases h with
  | answered more soon attempt => exact .answered (Nat.succ_lt_succ more) soon attempt
  | refused more calls => exact .refused (Nat.succ_lt_succ more) calls
  | exhausted => exact .exhausted

/-- The steps of the attempts are those of the silent ones, each with its full wait, and then those
of the one that ended them. -/
theorem Attempts.steps {left : Nat} {answered : Bool}
    (h : Attempts cfg i id left t ms answered t') :
    ∃ (silent : List (List ApStep)) (last : List ApStep), steps ms = silent.flatten ++ last
      ∧ (∀ w ∈ silent, Attempt cfg i id cfg.startupWait.polls.toNat false w)
      ∧ Ending cfg i id left silent.length answered last := by
  induction h with
  | exhausted => exact ⟨[], [], rfl, nofun, .exhausted⟩
  | refused tried =>
    exact ⟨[], _, rfl, nofun, .refused (Nat.succ_pos _) tried.calls⟩
  | answered tried waits =>
    obtain ⟨n, hn, -, hattempt⟩ := attempt_of_waits tried waits
    exact ⟨[], _, rfl, nofun, .answered (Nat.succ_pos _) hn hattempt⟩
  -- a wait that saw nothing used up its budget, which makes the attempt a silent one
  | silent tried waits reports _ ih =>
    obtain ⟨n, -, hall, hattempt⟩ := attempt_of_waits tried waits
    rw [hall rfl] at hattempt
    obtain ⟨silent, last, hsteps, hsilences, hends⟩ := ih
    refine ⟨_ :: silent, last, ?_, List.forall_mem_cons.mpr ⟨hattempt, hsilences⟩, hends.succ⟩
    rw [reports.of_line.2, ← List.append_assoc, steps_append, List.flatten_cons, List.append_assoc]
    exact congrArg (_ ++ ·) hsteps

/-- **What the hardware sees of a word** is a word of the grammar. -/
theorem Word.callWord {online : Bool} (h : Word cfg i id t ms online t') :
    CallWord cfg i id online (steps ms) := by
  cases h with
  | unprepared moves => exact .unprepared moves.calls
  | unreset moves => exact .unreset moves.calls
  | online reset answers recorded =>
    obtain ⟨silent, last, hsteps, hsilences, hends⟩ := answers.steps
    have hrecorded := List.map_eq_nil_iff.mp recorded.calls
    rw [steps_append, steps_append, hsteps, hrecorded, List.append_nil]
    exact .online reset.calls hsilences hends
  | parked reset quiet parks =>
    obtain ⟨silent, last, hsteps, hsilences, hends⟩ := quiet.steps
    obtain ⟨parking, hparking, hcall⟩ := List.map_eq_singleton_iff.mp parks.calls
    rw [steps_append, steps_append, hsteps, hparking, List.append_assoc]
    exact .parked reset.calls hsilences hends hcall
  | stray reset quiet parks =>
    obtain ⟨silent, last, hsteps, hsilences, hends⟩ := quiet.steps
    obtain ⟨parking, hparking, hcall⟩ := List.map_eq_singleton_iff.mp parks.calls
    rw [steps_append, steps_append, hsteps, hparking, List.append_assoc]
    exact .parked reset.calls hsilences hends hcall

/-- A word begins with the call that prepares its processor. -/
theorem Word.head?_steps {online : Bool} (h : Word cfg i id t ms online t') :
    ∀ x ∈ (steps ms).head?, x.before = t := by
  have hfirst : ∀ {c : ApCall} {deeds : List ApDeed} {t₁ : ProcessorTable} {ms ms' : List ApMove},
      Performs (.call c :: deeds) t ms t₁ → ∀ x ∈ (steps (ms ++ ms')).head?, x.before = t := by
    intro c deeds t₁ ms ms' h x hx
    cases h
    cases Option.some.inj hx
    rfl
  cases h with
  | unprepared moves => exact List.append_nil ms ▸ hfirst moves
  | unreset moves => exact List.append_nil ms ▸ hfirst moves
  | online reset => exact hfirst reset
  | parked reset => exact hfirst reset
  | stray reset => exact hfirst reset

end OneProcessor

/-! ## Who is in flight -/

/-- **Nobody else is in flight**, so that the table reports this processor or nobody. -/
structure Alone (i : Nat) (id : UInt32) (t : ProcessorTable) : Prop where
  /-- Whoever is in flight is this processor. -/
  others : ∀ j s, t.state? j = some s → s.inFlight = true → j = i
  /-- So the check either passes or names it. -/
  report : t.ensureQuiescent = .ok ()
    ∨ ∃ s, t.state? i = some s ∧ t.ensureQuiescent = .error (.stillStarting id s)

section InFlight

variable {i : Nat} {id : UInt32} {t t' : ProcessorTable} {ms : List ApMove}

/-- A processor is alone in flight when no other is, and then the quiescence check can only object
to it. -/
theorem Alone.of_others (hid : t.ids[i]? = some id)
    (hothers : ∀ j s, t.state? j = some s → s.inFlight = true → j = i) : Alone i id t := by
  refine ⟨hothers, ?_⟩
  unfold ProcessorTable.ensureQuiescent
  cases hfind : t.cpus.find? fun p => p.state.inFlight with
  | none => exact .inl rfl
  | some p =>
    obtain ⟨j, hj⟩ := List.getElem?_of_mem (List.mem_of_find?_eq_some hfind)
    have hflight : p.state.inFlight = true :=
      List.find?_some (p := fun q : Processor => q.state.inFlight) hfind
    have hstate := ProcessorTable.state?_get? hj
    -- the one that is found in flight must be the one processor that may be
    obtain rfl := hothers j p.state hstate hflight
    have hsame : p.apicId = id := Option.some.inj ((ProcessorTable.ids_get? hj).symm.trans hid)
    exact .inr ⟨p.state, hstate, by rw [← hsame]⟩

/-- A step is the call of a move, with the tables around that move. -/
theorem mem_steps {x : ApStep} (h : x ∈ steps ms) :
    ∃ m ∈ ms, m.act = .call x.call ∧ m.before = x.before ∧ m.after = x.after := by
  obtain ⟨m, hm, hstep⟩ := List.mem_filterMap.mp h
  refine ⟨m, hm, ?_⟩
  unfold ApMove.step? at hstep
  split at hstep
  · cases hstep
    exact ⟨‹_›, rfl, rfl⟩
  · exact nomatch hstep
  · exact nomatch hstep

/-- What no move changes is at every move as it was at first. -/
theorem Linked.const {α : Type} {f : ProcessorTable → α} (h : Linked t ms t')
    (hkeep : ∀ m ∈ ms, f m.after = f m.before) : ∀ m ∈ ms, f m.before = f t := by
  induction ms generalizing t with
  | nil => exact fun _ hm => absurd hm List.not_mem_nil
  | cons m ms ih =>
    obtain ⟨rfl, hrest⟩ := h
    obtain ⟨hhead, htail⟩ := List.forall_mem_cons.mp hkeep
    exact List.forall_mem_cons.mpr ⟨rfl, fun m' hm' => (ih hrest htail m' hm').trans hhead⟩

/-- **A word leaves its processor alone in flight**, when nothing was before. -/
theorem Word.alone {cfg : BringUpConfig} {online : Bool} (h : Word cfg i id t ms online t')
    (hid : t.ids[i]? = some id) (hs : t.state? i = some .discovered) (ht : t.Quiet) :
    ∀ x ∈ steps ms, Alone i id x.before := by
  intro x hx
  obtain ⟨m, hm, -, hbefore, -⟩ := mem_steps hx
  have hlinked := (h.touches hs).1.linked
  -- inside its word only this processor is written, so the others are as quiet as they were before
  have hids : m.before.ids = t.ids := hlinked.const (fun m hm => (h.lawful m hm).ids) m hm
  rw [← hbefore]
  refine .of_others (hids ▸ hid) fun j s hj hflight => ?_
  by_contra hne
  have hsame : m.before.state? j = t.state? j :=
    hlinked.const (f := fun t => t.state? j) (fun m hm => (h.lawful m hm).state? hne) m hm
  exact Bool.false_ne_true ((ht j s (hsame ▸ hj)).symm.trans hflight)

end InFlight

/-! ## All processors -/

/-- **These are the calls for one processor.** Nothing is in flight when it is prepared, and nobody
else later on. -/
structure WordOf (cfg : BringUpConfig) (i : Nat) (id : UInt32) (online : Bool) (w : List ApStep) :
    Prop where
  /-- The calls spell a word. -/
  calls : CallWord cfg i id online w
  /-- When the word begins nobody is in flight. -/
  quiet : ∀ x ∈ w.head?, x.before.ensureQuiescent = .ok ()
  /-- Later on nobody else is. -/
  alone : ∀ x ∈ w, Alone i id x.before

/-- **These are the calls for the processor at a position of a table**, and another table shows what
came of them. -/
def IsWordAt (cfg : BringUpConfig) (t t' : ProcessorTable) (i : Nat) (w : List ApStep) : Prop :=
  ∃ id online, t.ids[i]? = some id ∧ WordOf cfg i id online w
    ∧ t'.state? i = some (settledState online)

/-- The positions that are only discovered, among the `left` ones from `index` on. -/
def ProcessorTable.pendingFrom (t : ProcessorTable) (index left : Nat) : List Nat :=
  (List.range' index left).filter fun j => t.state? j = some .discovered

/-- **The positions of the processors that bring-up is to start**, in order. -/
def ProcessorTable.pending (t : ProcessorTable) : List Nat :=
  t.pendingFrom 1 (t.size - 1)

/-- The pending processors from an index on, one processor at a time. -/
theorem ProcessorTable.pendingFrom_succ (t : ProcessorTable) (index left : Nat) :
    t.pendingFrom index (left + 1) = if t.state? index = some .discovered
      then index :: t.pendingFrom (index + 1) left else t.pendingFrom (index + 1) left := by
  unfold pendingFrom
  rw [List.range'_succ, List.filter_cons]
  simp only [decide_eq_true_eq]

/-- Which processors are pending from an index on depends on their states alone. -/
theorem ProcessorTable.pendingFrom_congr {t t₁ : ProcessorTable} {index : Nat}
    (h : ∀ j, index ≤ j → t₁.state? j = t.state? j) (left : Nat) :
    t₁.pendingFrom index left = t.pendingFrom index left :=
  List.filter_congr fun j hj => by rw [h j (List.mem_range'_1.mp hj).1]

section AllProcessors

variable {cfg : BringUpConfig} {index left started abandoned : Nat} {t t₁ t' : ProcessorTable}
  {ms ms' : List ApMove}

/-- Nothing is in flight after a word. -/
theorem Word.quiet {i : Nat} {id : UInt32} {online : Bool} (h : Word cfg i id t ms online t')
    (hs : t.state? i = some .discovered) (ht : t.Quiet) : t'.Quiet := by
  obtain ⟨htouches, hend, -⟩ := h.touches hs
  intro j s hj
  by_cases hij : j = i
  · subst hij
    obtain rfl := Option.some.inj (hend.symm.trans hj)
    cases online <;> rfl
  · exact ht j s ((htouches.state? j hij).symm.trans hj)

/-- The steps are the words of the pending processors among the `left` ones from `index` on. -/
def InWords (cfg : BringUpConfig) (left index : Nat) (t : ProcessorTable) (xs : List ApStep)
    (t' : ProcessorTable) : Prop :=
  ∃ words : List (List ApStep), xs = words.flatten
    ∧ List.Forall₂ (IsWordAt cfg t t') (t.pendingFrom index left) words

/-- A word comes before the words of later processors. -/
theorem InWords.cons {p : Processor} {online : Bool} (ht : t.Quiet)
    (found : t.get? index = some p) (state : p.state = .discovered)
    (word : Word cfg index p.apicId t ms online t₁) (hlater : t'.state? index = t₁.state? index)
    (h : InWords cfg left (index + 1) t₁ (steps ms') t') :
    InWords cfg (left + 1) index t (steps (ms ++ ms')) t' := by
  have hs := ProcessorTable.state?_eq_some.mpr ⟨p, found, state⟩
  have hid := ProcessorTable.ids_get? found
  obtain ⟨htouches, hend, -⟩ := word.touches hs
  obtain ⟨words, hwords, hall⟩ := h
  refine ⟨steps ms :: words, by rw [steps_append, hwords, List.flatten_cons], ?_⟩
  rw [ProcessorTable.pendingFrom_succ, if_pos hs]
  refine .cons ⟨p.apicId, online, hid, ⟨word.callWord, fun x hx => ?_, word.alone hid hs ht⟩,
    hlater.trans hend⟩ ?_
  · rw [word.head?_steps x hx]
    exact ProcessorTable.ensureQuiescent_eq_ok.mpr ht
  · -- The word did not change which of the later processors are pending.
    unfold IsWordAt at hall
    rw [htouches.ids, ProcessorTable.pendingFrom_congr fun j hj =>
      htouches.state? j (Nat.ne_of_gt hj)] at hall
    exact hall

/-- **A sweep makes the words of the pending processors**, one after the other. -/
theorem Sweep.inWords (h : Sweep cfg left index t ms started abandoned t') (ht : t.Quiet) :
    InWords cfg left index t (steps ms) t' := by
  induction h with
  | done => exact ⟨[], rfl, .nil⟩
  | skip other _ ih =>
    obtain ⟨words, hwords, hall⟩ := ih ht
    refine ⟨words, hwords, ?_⟩
    rw [ProcessorTable.pendingFrom_succ, if_neg other]
    exact hall
  | online found state word rest ih =>
    exact .cons ht found state word
      (rest.settles.touches.state? _ fun hp => Nat.not_succ_le_self _ hp.1)
      (ih (word.quiet (ProcessorTable.state?_eq_some.mpr ⟨_, found, state⟩) ht))
  | givenUp found state word rest ih =>
    exact .cons ht found state word
      (rest.settles.touches.state? _ fun hp => Nat.not_succ_le_self _ hp.1)
      (ih (word.quiet (ProcessorTable.state?_eq_some.mpr ⟨_, found, state⟩) ht))

/-- **So does a course.** -/
theorem Course.inWords {outcome : BringUp} (h : Course cfg t ms outcome t') (ht : t.Quiet) :
    ∃ words : List (List ApStep), steps ms = words.flatten
      ∧ List.Forall₂ (IsWordAt cfg t t') t.pending words := by
  cases h with
  | alone few reports =>
    have hnone : t.pending = [] := by
      unfold ProcessorTable.pending
      rw [show t.size - 1 = 0 by omega]
      rfl
    rw [hnone, List.map_eq_nil_iff.mp reports.calls]
    exact ⟨[], rfl, .nil⟩
  | swept _ sweep reports =>
    obtain ⟨words, hwords, hall⟩ := sweep.inWords ht
    rw [steps_append, List.map_eq_nil_iff.mp reports.calls, List.append_nil]
    refine ⟨words, hwords, hall.imp ?_⟩
    rintro i w ⟨id, online, hid, hword, hend⟩
    exact ⟨id, online, hid, hword, (reports.of_line.1.state? i).trans hend⟩

end AllProcessors

/-- The calls of a run so far. -/
def ApScene.steps {W : Type} (s : ApScene W) : List ApStep :=
  Interrupts.steps s.journal

/-- **What bring-up asks of the hardware** is the words of the pending processors, one after the
other in the order of the table. -/
theorem bringUp_words {W : Type} (env : ApEnvironment W) (cfg : BringUpConfig) (w : W)
    (t : ProcessorTable) (ht : t.ensureQuiescent = .ok ()) :
    let s := (env.bringUp cfg w t).2
    ∃ words : List (List ApStep), s.steps = words.flatten
      ∧ List.Forall₂ (IsWordAt cfg t s.table) t.pending words :=
  (env.bringUp_course cfg w t).1.inWords (ProcessorTable.ensureQuiescent_eq_ok.mp ht)

namespace Sleepy

/-- The processor with APIC id 4, at position 1, wakes up at the second STARTUP that is sent, and
nobody else does. The environment counts them. -/
def environment : ApEnvironment Nat where
  prepare _ _ _ sent := ⟨.ok (), [], sent⟩
  sendInit _ _ sent := ⟨.ok (), [], sent⟩
  sendStartup id _ _ sent := ⟨.ok (), if id = 4 ∧ sent = 1 then [1] else [], sent + 1⟩
  delay _ _ sent := ⟨(), [], sent⟩
  relax _ sent := ⟨(), [], sent⟩

/-- The boot processor and two others. -/
def table : ProcessorTable :=
  (({} : ProcessorTable).discover 0 [4, 7]).2

/-- Two STARTUPs, and two relaxing steps after each. -/
def pacing : BringUpConfig :=
  { startupWait := ⟨2⟩ }

end Sleepy

open Sleepy in
/-- The word of the processor that wakes up late, and then the word of the one that never does. -/
theorem bringUp_words_sleepy :
    table.ensureQuiescent = .ok ()
      ∧ ∃ w₁ w₂, (environment.bringUp pacing 0 table).2.steps = w₁ ++ w₂
        ∧ WordOf pacing 1 4 true w₁ ∧ WordOf pacing 2 7 false w₂ := by
  have hpending : table.pending = [1, 2] := by decide
  have hids : table.ids = [0, 4, 7] := by decide
  have hends : (environment.bringUp pacing 0 table).2.table.cpus.map Processor.state
      = [.started, .started, .abandoned] := by decide +kernel
  obtain ⟨words, hsteps, hwords⟩ := bringUp_words environment pacing 0 table rfl
  generalize (environment.bringUp pacing 0 table).2 = s at hends hsteps hwords ⊢
  have hstate : ∀ i : Nat, s.table.state? i
      = [ProcessorState.started, .started, .abandoned][i]? := fun i => by
    rw [← hends, List.getElem?_map]
    rfl
  rw [hpending] at hwords
  obtain _ | ⟨⟨id₁, on₁, hid₁, hw₁, hend₁⟩, _ | ⟨⟨id₂, on₂, hid₂, hw₂, hend₂⟩, _ | _⟩⟩ := hwords
  rw [hids] at hid₁ hid₂
  cases hid₁
  cases hid₂
  cases on₁ with
  | false => exact nomatch (hstate 1).symm.trans hend₁
  | true =>
    cases on₂ with
    | true => exact nomatch (hstate 2).symm.trans hend₂
    | false => exact ⟨rfl, _, _, by simpa using hsteps, hw₁, hw₂⟩

end Interrupts
