import Interrupts.Proofs.Processor.Moves

/-!
# Bring-up settles every processor

Whatever the environment does, bring-up takes the state of a processor only forward, touches only
processors that were merely discovered, and leaves each of those started or abandoned. When nothing
was in flight before, nothing is in flight afterwards.

`Touches` says that a stretch of moves is of this kind and changes the states of certain positions
only. It is kept by putting stretches one after the other, so that it is enough to look at what one
processor's word does to its own state.
-/

namespace Interrupts

/-! ## Forward -/

/-- **One step forward** in the life of a processor. -/
inductive ProcessorState.Advances : ProcessorState → ProcessorState → Prop
  /-- It is prepared, and about to be sent an INIT. -/
  | reset : Advances .discovered .initSent
  /-- It was reset, and is about to be sent a STARTUP. -/
  | point : Advances .initSent .startupSent
  /-- It did not answer, and is about to be sent another one. -/
  | again : Advances .startupSent .startupSent
  /-- Its flag was seen. -/
  | start : Advances .startupSent .started
  /-- It could not be prepared. -/
  | unprepared : Advances .discovered .abandoned
  /-- It could not be sent an INIT, or there are no STARTUPs to send. -/
  | unreset : Advances .initSent .abandoned
  /-- It answered none of them, or one could not be sent. -/
  | silent : Advances .startupSent .abandoned

/-- The move takes every processor forward, or leaves it where it is. -/
def ApMove.Forward (m : ApMove) : Prop :=
  ∀ j, m.after.state? j = m.before.state? j ∨
    ∃ s s', m.before.state? j = some s ∧ m.after.state? j = some s' ∧ s.Advances s'

/-- **The moves change the states of certain positions only**, and only forward; they change no
APIC id and lower no flag. -/
structure Touches (P : Nat → Prop) (t : ProcessorTable) (ms : List ApMove) (t' : ProcessorTable) :
    Prop where
  /-- Each move begins in the table that the one before it left. -/
  linked : Linked t ms t'
  ids : t'.ids = t.ids
  isStarted : ∀ j, t.isStarted j = true → t'.isStarted j = true
  state? : ∀ j, ¬P j → t'.state? j = t.state? j
  /-- The other positions keep their states on the way, too. -/
  others : ∀ m ∈ ms, ∀ j, ¬P j → m.after.state? j = t.state? j
  /-- Every move that stores a state leads a processor one step forward. -/
  forward : ∀ m ∈ ms, m.Forward

namespace Touches

variable {P Q : Nat → Prop} {t t' t'' : ProcessorTable} {ms ms' : List ApMove}

/-- Where no move is made, no processor is touched. -/
theorem nil (P : Nat → Prop) (t : ProcessorTable) : Touches P t [] t where
  linked := rfl
  ids := rfl
  isStarted := fun _ h => h
  state? := fun _ _ => rfl
  others := fun _ hm => absurd hm List.not_mem_nil
  forward := fun _ hm => absurd hm List.not_mem_nil

/-- Two stretches touch what either of them touches. -/
theorem append (h : Touches P t ms t') (h' : Touches P t' ms' t'') :
    Touches P t (ms ++ ms') t'' where
  linked := h.linked.append h'.linked
  ids := h'.ids.trans h.ids
  isStarted := fun j hj => h'.isStarted j (h.isStarted j hj)
  state? := fun j hj => (h'.state? j hj).trans (h.state? j hj)
  others := fun m hm j hj => (List.mem_append.mp hm).elim (fun hm => h.others m hm j hj)
    fun hm => (h'.others m hm j hj).trans (h.state? j hj)
  forward := fun m hm => (List.mem_append.mp hm).elim (h.forward m) (h'.forward m)

/-- What touches only certain processors touches only these and others. -/
theorem mono (h : Touches P t ms t') (hPQ : ∀ j, P j → Q j) : Touches Q t ms t' :=
  { h with
    state? := fun j hj => h.state? j fun hp => hj (hPQ j hp)
    others := fun m hm j hj => h.others m hm j fun hp => hj (hPQ j hp) }

/-- A move that only raises flags. -/
theorem raise (P : Nat → Prop) (act : ApAct) (h : t.Raises t') :
    Touches P t [⟨act, t, t'⟩] t' where
  linked := ⟨rfl, rfl⟩
  ids := h.ids
  isStarted := h.isStarted
  state? := fun j _ => h.state? j
  others := fun m hm j _ => by rw [List.mem_singleton.mp hm]; exact h.state? j
  forward := fun m hm j => by rw [List.mem_singleton.mp hm]; exact .inl (h.state? j)

/-- Storing a state that is one step forward. -/
theorem store {i : Nat} {s s' : ProcessorState} (hs : t.state? i = some s) (hstep : s.Advances s') :
    Touches (· = i) t [⟨.store, t, t.setState i s'⟩] (t.setState i s') where
  linked := ⟨rfl, rfl⟩
  ids := t.ids_setState i s'
  isStarted := fun j hj => by rw [ProcessorTable.isStarted_setState]; exact hj
  state? := fun j hj => ProcessorTable.state?_setState_of_ne s' fun h => hj h.symm
  others := fun m hm j hj => by
    rw [List.mem_singleton.mp hm]
    exact ProcessorTable.state?_setState_of_ne s' fun h => hj h.symm
  forward := fun m hm j => by
    rw [List.mem_singleton.mp hm]
    by_cases hij : i = j
    · refine .inr ⟨s, s', hij ▸ hs, ?_, hstep⟩
      show (t.setState i s').state? j = some s'
      rw [ProcessorTable.state?_setState, if_pos hij, ← hij, hs]
      rfl
    · exact .inl (ProcessorTable.state?_setState_of_ne s' hij)

end Touches

/-! ## One processor -/

/-- **The deeds take one processor** from a state to a state. -/
inductive Leads (i : Nat) : List ApDeed → ProcessorState → ProcessorState → Prop
  | nil {s : ProcessorState} : Leads i [] s s
  | call {c : ApCall} {deeds : List ApDeed} {s s' : ProcessorState} (rest : Leads i deeds s s') :
      Leads i (.call c :: deeds) s s'
  | line {deeds : List ApDeed} {s s' : ProcessorState} (rest : Leads i deeds s s') :
      Leads i (.line :: deeds) s s'
  | store {deeds : List ApDeed} {s s₁ s' : ProcessorState} (step : s.Advances s₁)
      (rest : Leads i deeds s₁ s') : Leads i (.store i s₁ :: deeds) s s'

section OneProcessor

variable {i : Nat} {t t' : ProcessorTable} {ms : List ApMove}

/-- Deeds that lead one processor from a state to another touch that processor alone. -/
theorem Performs.touches {deeds : List ApDeed} {s s' : ProcessorState}
    (h : Performs deeds t ms t') (hleads : Leads i deeds s s') (hs : t.state? i = some s) :
    Touches (· = i) t ms t' ∧ t'.state? i = some s' := by
  induction h generalizing s with
  | nil =>
    cases hleads
    exact ⟨.nil _ _, hs⟩
  | call raises _ ih =>
    cases hleads with
    | call hrest =>
      obtain ⟨htouches, hend⟩ := ih hrest ((raises.state? i).trans hs)
      exact ⟨(Touches.raise _ _ raises).append htouches, hend⟩
  | line raises _ ih =>
    cases hleads with
    | line hrest =>
      obtain ⟨htouches, hend⟩ := ih hrest ((raises.state? i).trans hs)
      exact ⟨(Touches.raise _ _ raises).append htouches, hend⟩
  | @store _ stored _ t _ _ _ ih =>
    cases hleads with
    -- only a store moves the state on; flags may rise at any deed
    | store step hrest =>
      have hstored : (t.setState i stored).state? i = some stored := by
        rw [ProcessorTable.state?_setState, if_pos rfl, hs]
        rfl
      obtain ⟨htouches, hend⟩ := ih hrest hstored
      exact ⟨(Touches.store hs step).append htouches, hend⟩

/-- A wait changes no state, and the flag it saw stays up. -/
theorem Waits.touches {left : Nat} {seen : Bool} {s : ProcessorState}
    (h : Waits i left t ms seen t') (hs : t.state? i = some s) :
    Touches (· = i) t ms t' ∧ t'.state? i = some s ∧ (seen = true → t'.isStarted i = true) := by
  induction h with
  | seen flag => exact ⟨.nil _ _, hs, fun _ => flag⟩
  | unseen => exact ⟨.nil _ _, hs, fun h => nomatch h⟩
  | relax _ step _ ih =>
    obtain ⟨hstep, hs'⟩ := step.touches (.call .nil) hs
    obtain ⟨hrest, hend⟩ := ih hs'
    exact ⟨hstep.append hrest, hend⟩

/-- After the STARTUPs a processor can still be abandoned; and when it answered, it is pointed at
the trampoline and its flag is up. -/
theorem Attempts.touches {cfg : BringUpConfig} {id : UInt32} {left : Nat} {answered : Bool}
    {s : ProcessorState} (h : Attempts cfg i id left t ms answered t') (hs : t.state? i = some s)
    (hstep : s.Advances .startupSent) (hdrop : s.Advances .abandoned) :
    Touches (· = i) t ms t' ∧ (∃ s', t'.state? i = some s' ∧ s'.Advances .abandoned)
      ∧ (answered = true → t'.state? i = some .startupSent ∧ t'.isStarted i = true) := by
  induction h generalizing s with
  | exhausted => exact ⟨.nil _ _, ⟨s, hs, hdrop⟩, fun h => nomatch h⟩
  | refused tried =>
    obtain ⟨htouches, hend⟩ := tried.touches (.store hstep (.call (.line .nil))) hs
    exact ⟨htouches, ⟨_, hend, .silent⟩, fun h => nomatch h⟩
  | answered tried waits =>
    obtain ⟨htried, hs₁⟩ := tried.touches (.store hstep (.call (.call .nil))) hs
    obtain ⟨hwaits, hend, hflag⟩ := waits.touches hs₁
    exact ⟨htried.append hwaits, ⟨_, hend, .silent⟩, fun _ => ⟨hend, hflag rfl⟩⟩
  -- after a silent attempt the state is already `startupSent`, and storing it again is allowed
  | silent tried waits reports _ ih =>
    obtain ⟨htried, hs₁⟩ := tried.touches (.store hstep (.call (.call .nil))) hs
    obtain ⟨hwaits, hs₂, -⟩ := waits.touches hs₁
    obtain ⟨hreports, hs₃⟩ := reports.touches (.line .nil) hs₂
    obtain ⟨hagain, hend, hanswered⟩ := ih hs₃ .again .silent
    exact ⟨htried.append (hwaits.append (hreports.append hagain)), hend, hanswered⟩

/-- The state a word leaves behind. -/
def settledState (online : Bool) : ProcessorState :=
  if online then .started else .abandoned

/-- **A word settles its processor**: it ends started with its flag up, or abandoned. -/
theorem Word.touches {cfg : BringUpConfig} {id : UInt32} {online : Bool}
    (h : Word cfg i id t ms online t') (hs : t.state? i = some .discovered) :
    Touches (· = i) t ms t' ∧ t'.state? i = some (settledState online)
      ∧ (online = true → t'.isStarted i = true) := by
  cases h with
  | unprepared moves =>
    obtain ⟨htouches, hend⟩ := moves.touches (.call (.line (.store .unprepared .nil))) hs
    exact ⟨htouches, hend, fun h => nomatch h⟩
  | unreset moves =>
    obtain ⟨htouches, hend⟩ :=
      moves.touches (.call (.store .reset (.call (.line (.store .unreset .nil))))) hs
    exact ⟨htouches, hend, fun h => nomatch h⟩
  | online reset answers recorded =>
    obtain ⟨hreset, hs₁⟩ := reset.touches (.call (.store .reset (.call (.call .nil)))) hs
    obtain ⟨hanswers, -, hanswered⟩ := answers.touches hs₁ .point .unreset
    obtain ⟨hs₂, hflag⟩ := hanswered rfl
    obtain ⟨hrecorded, hend⟩ := recorded.touches (.store .start (.line .nil)) hs₂
    exact ⟨hreset.append (hanswers.append hrecorded), hend,
      fun _ => hrecorded.isStarted i hflag⟩
  | parked reset silent parks =>
    obtain ⟨hreset, hs₁⟩ := reset.touches (.call (.store .reset (.call (.call .nil)))) hs
    obtain ⟨hsilent, ⟨s₂, hs₂, hdrop⟩, -⟩ := silent.touches hs₁ .point .unreset
    obtain ⟨hparks, hend⟩ := parks.touches (.line (.call (.store hdrop .nil))) hs₂
    exact ⟨hreset.append (hsilent.append hparks), hend, fun h => nomatch h⟩
  | stray reset silent parks =>
    obtain ⟨hreset, hs₁⟩ := reset.touches (.call (.store .reset (.call (.call .nil)))) hs
    obtain ⟨hsilent, ⟨s₂, hs₂, hdrop⟩, -⟩ := silent.touches hs₁ .point .unreset
    obtain ⟨hparks, hend⟩ := parks.touches (.line (.call (.line (.store hdrop .nil)))) hs₂
    exact ⟨hreset.append (hsilent.append hparks), hend, fun h => nomatch h⟩

end OneProcessor

/-! ## All processors -/

section AllProcessors

variable {cfg : BringUpConfig} {t t' : ProcessorTable} {ms : List ApMove}

/-- The positions that are only discovered, among those from `index` on. -/
def Pending (t : ProcessorTable) (index : Nat) (j : Nat) : Prop :=
  index ≤ j ∧ t.state? j = some .discovered

/-- How many of the positions from `index` on were only discovered before and have this state
now. -/
def settledCount (t t' : ProcessorTable) (left index : Nat) (s : ProcessorState) : Nat :=
  (List.range' index left).countP fun j => t.state? j = some .discovered ∧ t'.state? j = some s

/-- The processors that settled in a state, one place at a time. -/
theorem settledCount_succ (t t' : ProcessorTable) (left index : Nat) (s : ProcessorState) :
    settledCount t t' (left + 1) index s
      = settledCount t t' left (index + 1) s
        + if t.state? index = some .discovered ∧ t'.state? index = some s then 1 else 0 := by
  unfold settledCount
  rw [List.range'_succ, List.countP_cons]
  simp only [decide_eq_true_eq]

/-- How many settled depends on the states from the index on alone. -/
theorem settledCount_congr {t t₁ t' : ProcessorTable} {index : Nat}
    (h : ∀ j, index ≤ j → t₁.state? j = t.state? j) (left : Nat) (s : ProcessorState) :
    settledCount t₁ t' left index s = settledCount t t' left index s := by
  refine List.countP_congr fun j hj => ?_
  rw [h j (List.mem_range'_1.mp hj).1]

/-- **The processors at `left` positions from `index` on are settled**, if they were pending, and
no others are touched. -/
structure Settles (left index : Nat) (t : ProcessorTable) (ms : List ApMove)
    (started abandoned : Nat) (t' : ProcessorTable) : Prop where
  /-- Only pending processors were touched. -/
  touches : Touches (Pending t index) t ms t'
  /-- Each of them was started, with its flag up, or was left out. -/
  settled : ∀ j, Pending t index j → j < index + left →
    (t'.state? j = some .started ∧ t'.isStarted j = true) ∨ t'.state? j = some .abandoned
  /-- The counts are those of the processors that changed. -/
  started : started = settledCount t t' left index .started
  abandoned : abandoned = settledCount t t' left index .abandoned

/-- A processor that is not pending is passed over. -/
theorem Settles.skip {left index started abandoned : Nat}
    (h : Settles left (index + 1) t ms started abandoned t')
    (other : t.state? index ≠ some .discovered) :
    Settles (left + 1) index t ms started abandoned t' where
  touches := h.touches.mono fun j hj => ⟨Nat.le_of_succ_le hj.1, hj.2⟩
  settled := fun j hj hlt => by
    have hne : index ≠ j := fun heq => other (heq ▸ hj.2)
    exact h.settled j ⟨Nat.lt_of_le_of_ne hj.1 hne, hj.2⟩ (by omega)
  started := by rw [settledCount_succ, if_neg fun hp => other hp.1, h.started]; rfl
  abandoned := by rw [settledCount_succ, if_neg fun hp => other hp.1, h.abandoned]; rfl

/-- A processor's word comes before the others. -/
theorem Settles.word {left index started abandoned : Nat} {id : UInt32} {online : Bool}
    {t₁ : ProcessorTable} {ms' : List ApMove} (hpending : t.state? index = some .discovered)
    (hword : Word cfg index id t ms online t₁)
    (h : Settles left (index + 1) t₁ ms' started abandoned t') :
    Settles (left + 1) index t (ms ++ ms') (started + if online then 1 else 0)
      (abandoned + if online then 0 else 1) t' := by
  obtain ⟨htouches, hend, hflag⟩ := hword.touches hpending
  -- The word leaves the other positions alone, and they leave alone what it did to its own.
  have hsame : ∀ j, index + 1 ≤ j → t₁.state? j = t.state? j := fun j hj =>
    htouches.state? j (by omega)
  have hfinal : t'.state? index = some (settledState online) := by
    rw [h.touches.state? index (fun hp => absurd hp.1 (by omega)), hend]
  refine ⟨?_, fun j hj hlt => ?_, ?_, ?_⟩
  · refine (htouches.mono fun j hj => ?_).append (h.touches.mono fun j hj => ?_)
    · rw [hj]
      exact ⟨Nat.le_refl _, hpending⟩
    · exact ⟨Nat.le_of_succ_le hj.1, (hsame j hj.1).symm.trans hj.2⟩
  · rcases Nat.eq_or_lt_of_le hj.1 with heq | hgt
    · rw [← heq]
      cases online with
      | true => exact .inl ⟨hfinal, h.touches.isStarted index (hflag rfl)⟩
      | false => exact .inr hfinal
    · exact h.settled j ⟨hgt, (hsame j hgt).trans hj.2⟩ (by omega)
  · rw [settledCount_succ, hfinal, h.started, settledCount_congr hsame]
    cases online <;> simp [hpending, settledState]
  · rw [settledCount_succ, hfinal, h.abandoned, settledCount_congr hsame]
    cases online <;> simp [hpending, settledState]

/-- **A sweep settles every pending processor.** -/
theorem Sweep.settles {left index started abandoned : Nat}
    (h : Sweep cfg left index t ms started abandoned t') :
    Settles left index t ms started abandoned t' := by
  induction h with
  | done =>
    exact ⟨.nil _ _, fun j hj hlt => absurd hj.1 (by omega), rfl, rfl⟩
  | skip other _ ih => exact ih.skip other
  | online found state word _ ih =>
    exact ih.word (ProcessorTable.state?_eq_some.mpr ⟨_, found, state⟩) word
  | givenUp found state word _ ih =>
    exact ih.word (ProcessorTable.state?_eq_some.mpr ⟨_, found, state⟩) word

/-- A sweep without a pending processor makes no move. -/
theorem Sweep.idle {left index started abandoned : Nat}
    (h : Sweep cfg left index t ms started abandoned t')
    (hnone : ∀ j, index ≤ j → t.state? j ≠ some .discovered) : ms = [] ∧ t' = t := by
  induction h with
  | done => exact ⟨rfl, rfl⟩
  | skip _ _ ih => exact ih fun j hj => hnone j (Nat.le_of_succ_le hj)
  | online found state =>
    exact absurd (ProcessorTable.state?_eq_some.mpr ⟨_, found, state⟩) (hnone _ (Nat.le_refl _))
  | givenUp found state =>
    exact absurd (ProcessorTable.state?_eq_some.mpr ⟨_, found, state⟩) (hnone _ (Nat.le_refl _))

/-! ## The whole course -/

/-- **A course settles every processor but the first**, and the outcome counts them. -/
theorem Course.settles {outcome : BringUp} (h : Course cfg t ms outcome t') :
    Touches (Pending t 1) t ms t'
      ∧ (∀ j, Pending t 1 j →
          (t'.state? j = some .started ∧ t'.isStarted j = true) ∨ t'.state? j = some .abandoned)
      ∧ (2 ≤ t.size → outcome = .completed
          { processors := t.size
            started := settledCount t t' (t.size - 1) 1 .started
            abandoned := settledCount t t' (t.size - 1) 1 .abandoned }) := by
  -- The sweep ends with the table, so that it misses no pending position.
  have hlisted : ∀ j, Pending t 1 j → j < t.size := fun j hj =>
    Nat.lt_of_not_le fun hle => nomatch (ProcessorTable.state?_eq_none.mpr hle).symm.trans hj.2
  cases h with
  | alone few reports =>
    obtain ⟨raises, rfl⟩ := reports.of_line
    refine ⟨.raise _ _ raises, fun j hj => ?_, fun hmany => absurd few (by omega)⟩
    exact absurd (hlisted j hj) (by have := hj.1; omega)
  | @swept t₁ _ _ _ _ _ several sweep reports =>
    have hsweep := sweep.settles
    obtain ⟨raises, rfl⟩ := reports.of_line
    refine ⟨hsweep.touches.append (.raise _ _ raises), fun j hj => ?_, fun _ => ?_⟩
    · rcases hsweep.settled j hj (by have := hlisted j hj; omega) with ⟨hstate, hflag⟩ | hstate
      · exact .inl ⟨(raises.state? j).trans hstate, raises.isStarted j hflag⟩
      · exact .inr ((raises.state? j).trans hstate)
    · have hsame : ∀ s, settledCount t t' (t.size - 1) 1 s = settledCount t t₁ (t.size - 1) 1 s :=
        fun s => List.countP_congr fun j _ => by rw [raises.state? j]
      rw [hsweep.started, hsweep.abandoned, hsame, hsame]

/-- **Nothing is in flight after a course** that began with nothing in flight. -/
theorem Course.quiet {outcome : BringUp} (h : Course cfg t ms outcome t') (ht : t.Quiet) :
    t'.Quiet := by
  obtain ⟨htouches, hsettled, -⟩ := h.settles
  intro j s hs
  by_cases hj : Pending t 1 j
  · rcases hsettled j hj with ⟨hstarted, -⟩ | habandoned
    · rw [Option.some.inj (hs.symm.trans hstarted)]
      rfl
    · rw [Option.some.inj (hs.symm.trans habandoned)]
      rfl
  · exact ht j s ((htouches.state? j hj).symm.trans hs)

/-- **What a run of bring-up comes to**, for a table of which nothing was in flight. -/
structure SettledBy (t : ProcessorTable) (outcome : BringUp) (ms : List ApMove)
    (t' : ProcessorTable) : Prop where
  /-- The moves lead from the one table to the other, and every one of them leads forward. -/
  linked : Linked t ms t'
  forward : ∀ m ∈ ms, m.Forward
  /-- The table lists the same processors at the same positions. -/
  ids : t'.ids = t.ids
  /-- The boot processor, and those that were started or abandoned before, are left alone. -/
  kept : ∀ j s, t.state? j = some s → j = 0 ∨ s = .started ∨ s = .abandoned →
    (∀ m ∈ ms, m.after.state? j = some s) ∧ t'.state? j = some s
  /-- All others are started, with their flag up, or abandoned. -/
  settled : ∀ j s, t.state? j = some s → j ≠ 0 → s ≠ .started → s ≠ .abandoned →
    (t'.state? j = some .started ∧ t'.isStarted j = true) ∨ t'.state? j = some .abandoned
  /-- Nothing is in flight any more. -/
  quiescent : t'.ensureQuiescent = .ok ()
  /-- The outcome counts them. -/
  counts : 2 ≤ t.size → outcome = .completed
    { processors := t.size
      started := settledCount t t' (t.size - 1) 1 .started
      abandoned := settledCount t t' (t.size - 1) 1 .abandoned }

/-- **Every course settles** a table of which nothing was in flight. -/
theorem Course.settledBy {outcome : BringUp} (h : Course cfg t ms outcome t') (ht : t.Quiet) :
    SettledBy t outcome ms t' := by
  obtain ⟨htouches, hsettled, hcounts⟩ := h.settles
  refine ⟨htouches.linked, htouches.forward, htouches.ids, fun j s hs hkept => ?_,
    fun j s hs hj hstarted habandoned => ?_,
    ProcessorTable.ensureQuiescent_eq_ok.mpr (h.quiet ht), hcounts⟩
  · have hnot : ¬Pending t 1 j := by
      rintro ⟨hpos, hdiscovered⟩
      cases hs.symm.trans hdiscovered
      exact hkept.elim (by omega) fun hor => hor.elim nofun nofun
    exact ⟨fun m hm => (htouches.others m hm j hnot).trans hs, (htouches.state? j hnot).trans hs⟩
  · have hflight : s.inFlight = false := ht j s hs
    -- at rest before the run and neither started nor abandoned, it was still to be discovered
    have hdiscovered : s = .discovered := by
      cases s with
      | discovered => rfl
      | initSent | startupSent => exact nomatch hflight
      | started => exact absurd rfl hstarted
      | abandoned => exact absurd rfl habandoned
    exact hsettled j ⟨Nat.pos_of_ne_zero hj, hdiscovered ▸ hs⟩

/-- After a course nothing is pending. -/
theorem Course.not_pending {outcome : BringUp} (h : Course cfg t ms outcome t') (j : Nat) :
    ¬Pending t' 1 j := by
  rintro ⟨hpos, hdiscovered⟩
  obtain ⟨htouches, hsettled, -⟩ := h.settles
  by_cases hj : Pending t 1 j
  · rcases hsettled j hj with ⟨hstarted, -⟩ | habandoned
    · exact nomatch hdiscovered.symm.trans hstarted
    · exact nomatch hdiscovered.symm.trans habandoned
  · exact hj ⟨hpos, (htouches.state? j hj).symm.trans hdiscovered⟩

/-- **A course without a pending processor** only logs a line. -/
theorem Course.idle {outcome : BringUp} (h : Course cfg t ms outcome t')
    (hnone : ∀ j, ¬Pending t 1 j) : ∀ m ∈ ms, m.act = .line := by
  have hone : ∀ {t t' : ProcessorTable} {ms : List ApMove}, Performs [.line] t ms t' →
      ∀ m ∈ ms, m.act = .line := by
    intro t t' ms h m hm
    rw [h.of_line.2] at hm
    rw [List.mem_singleton.mp hm]
  cases h with
  | alone _ reports => exact hone reports
  | swept _ sweep reports =>
    obtain ⟨rfl, rfl⟩ := sweep.idle fun j hj hs => hnone j ⟨hj, hs⟩
    exact hone reports

end AllProcessors

end Interrupts
