import Interrupts.Proofs.Processor.Rig
import Interrupts.Proofs.Processor.Settling

/-!
# Parked processors

Once bring-up is over and nothing is in flight, the trampoline page is given back. That is safe when
every processor that was sent a STARTUP either runs the kernel, which its flag shows, or was reset
by an INIT since then: a processor that was reset waits, and executes nothing.

Bring-up does send that INIT to a processor that stays silent. But when the INIT is refused it only
logs a warning and abandons the processor as it abandons any other, and afterwards the table does
not show the difference. So the page is given back safely exactly when this does not happen.
-/

namespace Interrupts

/-! ## Since the last STARTUP -/

/-- Whom an INIT or a STARTUP is for. -/
@[simp] def ApAct.addressee? : ApAct → Option UInt32
  | .call (.init id _) => some id
  | .call (.startup id _ _) => some id
  | _ => none

/-- A STARTUP for this processor, granted or not. -/
@[simp] def ApAct.isStartup (id : UInt32) : ApAct → Bool
  | .call (.startup id' _ _) => id' == id
  | _ => false

/-- An INIT for this processor that was granted, or one that was refused. -/
@[simp] def ApAct.isInit (id : UInt32) (granted : Bool) : ApAct → Bool
  | .call (.init id' answer) => id' == id && answer.isOk == granted
  | _ => false

/-- The processor was sent a STARTUP. -/
def WasPointed (id : UInt32) (acts : List ApAct) : Prop :=
  ∃ a ∈ acts, a.isStartup id = true

/-- What was done since the last STARTUP for a processor, the latest first. -/
def sinceStartup (id : UInt32) (acts : List ApAct) : List ApAct :=
  acts.reverse.takeWhile fun a => !a.isStartup id

/-- **The processor was sent an INIT since its last STARTUP**, and it was granted or refused. -/
def ResetSince (id : UInt32) (granted : Bool) (acts : List ApAct) : Prop :=
  ∃ a ∈ sinceStartup id acts, a.isInit id granted = true

instance (id : UInt32) (acts : List ApAct) : Decidable (WasPointed id acts) :=
  inferInstanceAs (Decidable (∃ a ∈ acts, _))

instance (id : UInt32) (granted : Bool) (acts : List ApAct) :
    Decidable (ResetSince id granted acts) :=
  inferInstanceAs (Decidable (∃ a ∈ sinceStartup id acts, _))

section Since

variable {id : UInt32} {granted : Bool} {acts acts' : List ApAct}

/-- A STARTUP for an identifier addresses it. -/
theorem ApAct.addressee?_of_isStartup {a : ApAct} (h : a.isStartup id = true) :
    a.addressee? = some id := by
  unfold isStartup at h
  split at h
  · exact congrArg some (eq_of_beq h)
  · exact nomatch h

theorem ApAct.isStartup_of_not_addressed {a : ApAct} (h : a.addressee? ≠ some id) :
    a.isStartup id = false :=
  Bool.eq_false_iff.mpr fun hstartup => h (addressee?_of_isStartup hstartup)

/-- An INIT for an identifier addresses it. -/
theorem ApAct.addressee?_of_isInit {a : ApAct} (h : a.isInit id granted = true) :
    a.addressee? = some id := by
  unfold isInit at h
  split at h
  · exact congrArg some (eq_of_beq (Bool.and_eq_true_iff.mp h).1)
  · exact nomatch h

/-- A processor that was reset since was sent an INIT. -/
theorem ResetSince.mem (h : ResetSince id granted acts) :
    ∃ a ∈ acts, a.isInit id granted = true := by
  obtain ⟨a, ha, hinit⟩ := h
  exact ⟨a, List.mem_reverse.mp ((List.takeWhile_sublist _).mem ha), hinit⟩

/-- A STARTUP in two stretches is a STARTUP in one of them. -/
theorem wasPointed_append :
    WasPointed id (acts ++ acts') ↔ WasPointed id acts ∨ WasPointed id acts' := by
  unfold WasPointed
  simp only [List.mem_append, or_and_right, exists_or]

theorem not_wasPointed (h : ∀ a ∈ acts, a.isStartup id = false) : ¬WasPointed id acts := by
  rintro ⟨a, ha, hstartup⟩
  exact Bool.false_ne_true ((h a ha).symm.trans hstartup)

theorem not_wasPointed_of_not_addressed (h : ∀ a ∈ acts, a.addressee? ≠ some id) :
    ¬WasPointed id acts :=
  not_wasPointed fun a ha => ApAct.isStartup_of_not_addressed (h a ha)

/-- Without another STARTUP the record goes on. -/
theorem sinceStartup_append (h : ∀ a ∈ acts', a.isStartup id = false) :
    sinceStartup id (acts ++ acts') = acts'.reverse ++ sinceStartup id acts := by
  unfold sinceStartup
  rw [List.reverse_append]
  refine List.takeWhile_append_of_pos fun a ha => ?_
  rw [h a (List.mem_reverse.mp ha)]
  rfl

/-- **Nothing changes for a processor** that is not addressed. -/
theorem resetSince_append_of_not_addressed (h : ∀ a ∈ acts', a.addressee? ≠ some id) :
    ResetSince id granted (acts ++ acts') ↔ ResetSince id granted acts := by
  have hstartup : ∀ a ∈ acts', a.isStartup id = false := fun a ha =>
    ApAct.isStartup_of_not_addressed (h a ha)
  unfold ResetSince
  rw [sinceStartup_append hstartup]
  constructor
  · rintro ⟨a, ha, hinit⟩
    rcases List.mem_append.mp ha with hlater | hbefore
    · exact absurd (ApAct.addressee?_of_isInit hinit) (h a (List.mem_reverse.mp hlater))
    · exact ⟨a, hbefore, hinit⟩
  · rintro ⟨a, ha, hinit⟩
    exact ⟨a, List.mem_append_right _ ha, hinit⟩

/-- An INIT counts as long as no STARTUP follows. -/
theorem resetSince_append_of_init {a : ApAct} (ha : a ∈ acts') (hinit : a.isInit id granted = true)
    (h : ∀ a ∈ acts', a.isStartup id = false) : ResetSince id granted (acts ++ acts') := by
  unfold ResetSince
  rw [sinceStartup_append h]
  exact ⟨a, List.mem_append_left _ (List.mem_reverse.mpr ha), hinit⟩

/-- **What was done before a STARTUP** does not count any more. -/
theorem resetSince_append_of_pointed (h : WasPointed id acts') :
    ResetSince id granted (acts ++ acts') ↔ ResetSince id granted acts' := by
  obtain ⟨a, ha, hstartup⟩ := h
  have hsince : sinceStartup id (acts ++ acts') = sinceStartup id acts' := by
    unfold sinceStartup
    rw [List.reverse_append, List.takeWhile_append, if_neg]
    intro hlength
    -- read backwards from the end, the search stops at this STARTUP and never reaches the earlier
    -- acts
    have hself := (List.takeWhile_prefix _).eq_of_length hlength
    have hall := List.all_eq_true.mp (hself ▸ List.all_takeWhile) a (List.mem_reverse.mpr ha)
    rw [hstartup] at hall
    exact nomatch hall
  unfold ResetSince
  rw [hsince]

end Since

/-! ## Fates -/

/-- **How a processor that was sent a STARTUP ends up**: it runs the kernel, it was parked, or it
strays because its INIT was refused. -/
inductive Fate (id : UInt32) (acts : List ApAct) (flag : Bool) : Prop
  /-- It raised its flag, and no INIT was sent to it since its STARTUP. -/
  | running (up : flag = true) (left : ∀ granted, ¬ResetSince id granted acts)
  /-- An INIT was granted since, and none was refused. -/
  | parked (reset : ResetSince id true acts) (once : ¬ResetSince id false acts)
  /-- The INIT that should have parked it was refused. -/
  | stray (refused : ResetSince id false acts) (once : ¬ResetSince id true acts)

namespace Fate

variable {id : UInt32} {acts acts' : List ApAct} {flag flag' : Bool}

/-- A fate depends on the INITs since the last STARTUP only, and on the flag. -/
theorem congr (h : Fate id acts flag)
    (hsame : ∀ granted, ResetSince id granted acts' ↔ ResetSince id granted acts)
    (hflag : flag = true → flag' = true) : Fate id acts' flag' := by
  cases h with
  | running up left => exact .running (hflag up) fun granted h => left granted ((hsame _).mp h)
  | parked reset once => exact .parked ((hsame _).mpr reset) fun h => once ((hsame _).mp h)
  | stray refused once => exact .stray ((hsame _).mpr refused) fun h => once ((hsame _).mp h)

/-- What follows does not address the processor. -/
theorem append (h : Fate id acts flag) (hlater : ∀ a ∈ acts', a.addressee? ≠ some id)
    (hflag : flag = true → flag' = true) : Fate id (acts ++ acts') flag' :=
  h.congr (fun _ => resetSince_append_of_not_addressed hlater) hflag

/-- What came before the last STARTUP does not matter. -/
theorem prepend (h : Fate id acts' flag) (hpointed : WasPointed id acts') :
    Fate id (acts ++ acts') flag :=
  h.congr (fun _ => resetSince_append_of_pointed hpointed) fun hup => hup

end Fate

/-! ## One processor -/

/-- What a deed shows of itself. -/
@[simp] def ApDeed.act : ApDeed → ApAct
  | .call c => .call c
  | .store _ _ => .store
  | .line => .line

section OneProcessor

variable {cfg : BringUpConfig} {i : Nat} {id : UInt32} {t t' : ProcessorTable} {ms : List ApMove}

/-- The acts of a straight line of deeds are those of the deeds. -/
theorem Performs.acts {deeds : List ApDeed} (h : Performs deeds t ms t') :
    ms.map ApMove.act = deeds.map ApDeed.act := by
  induction h with
  | nil => rfl
  | call _ _ ih => exact congrArg (_ :: ·) ih
  | store _ ih => exact congrArg (_ :: ·) ih
  | line _ _ ih => exact congrArg (_ :: ·) ih

/-- What holds of the acts of the deeds holds of the acts of the moves. -/
theorem Performs.forall_acts {deeds : List ApDeed} {P : ApAct → Prop} (h : Performs deeds t ms t')
    (hdeeds : ∀ d ∈ deeds, P d.act) : ∀ a ∈ ms.map ApMove.act, P a := by
  rw [h.acts]
  exact List.forall_mem_map.mpr hdeeds

/-- The act is a STARTUP for the processor, or addresses nobody. -/
def ApAct.Tries (id : UInt32) (a : ApAct) : Prop :=
  a.isStartup id = true ∨ a.addressee? = none

/-- What an attempt does is no INIT, for this processor or for another. -/
theorem ApAct.Tries.isInit {a : ApAct} (h : a.Tries id) (id' : UInt32) (granted : Bool) :
    a.isInit id' granted = false := by
  cases a with
  | call c =>
    cases c with
    | init _ _ => exact h.elim nofun nofun
    | _ => rfl
  | _ => rfl

/-- Waiting is part of an attempt. -/
theorem Waits.tries {left : Nat} {seen : Bool} (h : Waits i left t ms seen t') :
    ∀ a ∈ ms.map ApMove.act, a.Tries id := by
  induction h with
  | seen => exact fun _ ha => absurd ha List.not_mem_nil
  | unseen => exact fun _ ha => absurd ha List.not_mem_nil
  | relax _ step _ ih =>
    rw [List.map_append, List.forall_mem_append]
    exact ⟨step.forall_acts (by simp [ApAct.Tries]), ih⟩

/-- The attempts consist of STARTUPs for the processor and of acts that address nobody. -/
theorem Attempts.tries {left : Nat} {answered : Bool}
    (h : Attempts cfg i id left t ms answered t') :
    ∀ a ∈ ms.map ApMove.act, a.Tries id := by
  have htried : ∀ {t t' : ProcessorTable} {ms : List ApMove},
      Performs [.store i .startupSent, .call (.startup id cfg.startPage (.ok ())),
        .call (.delay cfg.startupDelay)] t ms t' → ∀ a ∈ ms.map ApMove.act, a.Tries id := fun h =>
    h.forall_acts (by simp [ApAct.Tries])
  induction h with
  | exhausted => exact fun _ ha => absurd ha List.not_mem_nil
  | refused tried =>
    exact tried.forall_acts (by simp [ApAct.Tries])
  | answered tried waits =>
    rw [List.map_append, List.forall_mem_append]
    exact ⟨htried tried, waits.tries⟩
  | silent tried waits reports _ ih =>
    simp only [List.map_append, List.forall_mem_append]
    exact ⟨htried tried, waits.tries, reports.forall_acts (by simp [ApAct.Tries]), ih⟩

/-- **The word of a processor** addresses nobody else. -/
theorem Word.addressee {online : Bool} (h : Word cfg i id t ms online t') :
    ∀ a ∈ ms.map ApMove.act, ∀ id', a.addressee? = some id' → id' = id := by
  have htries : ∀ {a : ApAct}, a.Tries id → ∀ id', a.addressee? = some id' → id' = id := by
    rintro a (hstartup | hnobody) id' hid'
    · exact Option.some.inj (hid'.symm.trans (ApAct.addressee?_of_isStartup hstartup))
    · exact nomatch hnobody.symm.trans hid'
  cases h with
  | unprepared moves => exact moves.forall_acts (by simp)
  | unreset moves => exact moves.forall_acts (by simp)
  | online reset answers recorded =>
    simp only [List.map_append, List.forall_mem_append]
    exact ⟨reset.forall_acts (by simp),
      fun a ha => htries (answers.tries a ha),
      recorded.forall_acts (by simp)⟩
  | parked reset silent parks =>
    simp only [List.map_append, List.forall_mem_append]
    exact ⟨reset.forall_acts (by simp),
      fun a ha => htries (silent.tries a ha),
      parks.forall_acts (by simp)⟩
  | stray reset silent parks =>
    simp only [List.map_append, List.forall_mem_append]
    exact ⟨reset.forall_acts (by simp),
      fun a ha => htries (silent.tries a ha),
      parks.forall_acts (by simp)⟩

/-- The STARTUPs contain no INIT. -/
theorem not_resetSince_tries {acts acts' : List ApAct} {granted : Bool}
    (htries : ∀ a ∈ acts, a.Tries id) (hlater : ∀ a ∈ acts', a.isInit id granted = false) :
    ¬ResetSince id granted (acts ++ acts') := by
  intro hsince
  obtain ⟨a, ha, hinit⟩ := hsince.mem
  rcases List.mem_append.mp ha with ha | ha
  · exact Bool.false_ne_true (((htries a ha).isInit id granted).symm.trans hinit)
  · exact Bool.false_ne_true ((hlater a ha).symm.trans hinit)

/-- **The fate of a processor** that its word pointed at the trampoline. -/
theorem Word.fate {online : Bool} (h : Word cfg i id t ms online t')
    (hflag : online = true → t'.isStarted i = true) (hpointed : WasPointed id (ms.map ApMove.act)) :
    Fate id (ms.map ApMove.act) (t'.isStarted i) := by
  -- The first INIT comes before every STARTUP, so that only what follows it counts.
  have hreset : ∀ {t t' : ProcessorTable} {ms : List ApMove} {acts : List ApAct},
      Performs [.call (.prepare i id (.ok ())), .store i .initSent, .call (.init id (.ok ())),
        .call (.delay cfg.initDelay)] t ms t' →
      WasPointed id (ms.map ApMove.act ++ acts) → WasPointed id acts := fun h hpointed =>
    (wasPointed_append.mp hpointed).resolve_left
      (not_wasPointed (h.forall_acts (by simp)))
  cases h with
  | unprepared moves =>
    exact absurd hpointed (not_wasPointed (moves.forall_acts (by simp)))
  | unreset moves =>
    exact absurd hpointed (not_wasPointed (moves.forall_acts (by simp)))
  | online reset answers recorded =>
    rw [List.map_append] at hpointed ⊢
    have hrest := hreset reset hpointed
    rw [List.map_append] at hrest ⊢
    refine .prepend (.running (hflag rfl) fun granted => ?_) hrest
    exact not_resetSince_tries answers.tries
      (recorded.forall_acts (by simp))
  | parked reset silent parks =>
    rw [List.map_append] at hpointed ⊢
    have hrest := hreset reset hpointed
    rw [List.map_append] at hrest ⊢
    refine .prepend (.parked ?_ (not_resetSince_tries silent.tries ?_)) hrest
    · rw [parks.acts]
      exact resetSince_append_of_init (.tail _ (.head _))
        (by simp [Except.isOk, Except.toBool])
        (by simp)
    · exact parks.forall_acts (by simp [Except.isOk, Except.toBool])
  | stray reset silent parks =>
    rw [List.map_append] at hpointed ⊢
    have hrest := hreset reset hpointed
    rw [List.map_append] at hrest ⊢
    refine .prepend (.stray ?_ (not_resetSince_tries silent.tries ?_)) hrest
    · rw [parks.acts]
      exact resetSince_append_of_init (.tail _ (.head _))
        (by simp [Except.isOk, Except.toBool])
        (by simp)
    · exact parks.forall_acts (by simp [Except.isOk, Except.toBool])

end OneProcessor

/-! ## All processors -/

section AllProcessors

variable {cfg : BringUpConfig} {i index left started abandoned : Nat} {id : UInt32}
  {t t' : ProcessorTable} {ms : List ApMove}

/-- **Induction over a sweep, word by word**, for what does not ask which words are of processors
that came online. -/
theorem Sweep.byWord
    {P : (left index : Nat) → ProcessorTable → List ApMove → ProcessorTable → Prop}
    (done : ∀ index t, P 0 index t [] t)
    (skip : ∀ {left index t ms t'}, P left (index + 1) t ms t' → P (left + 1) index t ms t')
    (word : ∀ {left index more fewer t t₁ t' ms ms'} {p : Processor} {online : Bool},
      t.get? index = some p → p.state = .discovered → Word cfg index p.apicId t ms online t₁ →
      Sweep cfg left (index + 1) t₁ ms' more fewer t' → P left (index + 1) t₁ ms' t' →
      P (left + 1) index t (ms ++ ms') t')
    (h : Sweep cfg left index t ms started abandoned t') : P left index t ms t' := by
  induction h with
  | done => exact done _ _
  | skip _ _ ih => exact skip ih
  | online found state hword rest ih => exact word found state hword rest ih
  | givenUp found state hword rest ih => exact word found state hword rest ih

/-- The commands of a sweep are for processors at the positions that it covers. -/
theorem Sweep.addressee (h : Sweep cfg left index t ms started abandoned t') :
    ∀ a ∈ ms.map ApMove.act, ∀ id, a.addressee? = some id →
      ∃ j, index ≤ j ∧ t.ids[j]? = some id := by
  refine h.byWord (P := fun _ index t ms _ => ∀ a ∈ ms.map ApMove.act, ∀ id,
    a.addressee? = some id → ∃ j, index ≤ j ∧ t.ids[j]? = some id) ?_ ?_ ?_
  · exact fun _ _ _ ha => absurd ha List.not_mem_nil
  · intro left index t ms t' ih a ha id hid
    obtain ⟨j, hj, hlisted⟩ := ih a ha id hid
    exact ⟨j, Nat.le_of_succ_le hj, hlisted⟩
  · intro left index _ _ t t₁ t' ms ms' p online found state hword _ ih a ha id hid
    rw [List.map_append] at ha
    rcases List.mem_append.mp ha with ha | ha
    · rw [hword.addressee a ha id hid]
      exact ⟨index, Nat.le_refl _, ProcessorTable.ids_get? found⟩
    · obtain ⟨j, hj, hlisted⟩ := ih a ha id hid
      rw [(hword.touches (ProcessorTable.state?_eq_some.mpr ⟨p, found, state⟩)).1.ids] at hlisted
      exact ⟨j, Nat.le_of_succ_le hj, hlisted⟩

/-- The positions of processors with different APIC ids are different. -/
theorem ProcessorTable.index_eq (hids : t.ids.Nodup) {j : Nat} (hi : t.ids[i]? = some id)
    (hj : t.ids[j]? = some id) : i = j :=
  (List.getElem?_inj (List.getElem?_eq_some_iff.mp hi).1 hids).mp (hi.trans hj.symm)

/-- **The fate of every processor** that a sweep pointed at the trampoline. -/
theorem Sweep.fate (h : Sweep cfg left index t ms started abandoned t') (hids : t.ids.Nodup)
    (hi : t.ids[i]? = some id) (hpointed : WasPointed id (ms.map ApMove.act)) :
    Fate id (ms.map ApMove.act) (t'.isStarted i) := by
  refine h.byWord (P := fun _ index t ms t' => t.ids.Nodup → t.ids[i]? = some id →
    WasPointed id (ms.map ApMove.act) → Fate id (ms.map ApMove.act) (t'.isStarted i))
    ?_ ?_ ?_ hids hi hpointed
  · exact fun _ _ _ _ ⟨_, ha, _⟩ => absurd ha List.not_mem_nil
  · exact fun ih => ih
  · intro left index _ _ t t₁ t' ms ms' p online found state hword hrest ih hids hi hpointed
    obtain ⟨htouches, -, hflag⟩ :=
      hword.touches (ProcessorTable.state?_eq_some.mpr ⟨p, found, state⟩)
    have hlisted : t.ids[index]? = some p.apicId := ProcessorTable.ids_get? found
    rw [List.map_append] at hpointed ⊢
    by_cases hindex : index = i
    · -- This is the processor's own word, and none of the others addresses it.
      subst hindex
      obtain rfl : p.apicId = id := Option.some.inj (hlisted.symm.trans hi)
      have hlater : ∀ a ∈ ms'.map ApMove.act, a.addressee? ≠ some p.apicId := by
        intro a ha hid
        obtain ⟨j, hj, hlisted'⟩ := hrest.addressee a ha p.apicId hid
        rw [htouches.ids] at hlisted'
        exact absurd (ProcessorTable.index_eq hids hlisted hlisted') (by omega)
      have hown : WasPointed p.apicId (ms.map ApMove.act) :=
        (wasPointed_append.mp hpointed).resolve_right (not_wasPointed_of_not_addressed hlater)
      exact (hword.fate hflag hown).append hlater fun hup => hrest.settles.touches.isStarted _ hup
    · -- This is the word of another processor.
      have hother : ∀ a ∈ ms.map ApMove.act, a.addressee? ≠ some id := by
        intro a ha hid
        have hsame : t.ids[index]? = some id := (hword.addressee a ha id hid) ▸ hlisted
        exact hindex (ProcessorTable.index_eq hids hsame hi)
      have hlater : WasPointed id (ms'.map ApMove.act) :=
        (wasPointed_append.mp hpointed).resolve_left (not_wasPointed_of_not_addressed hother)
      rw [← htouches.ids] at hids hi
      exact (ih hids hi hlater).prepend hlater

/-- A course sends STARTUPs to processors of its sweep only. -/
theorem Course.pointed_of_swept {outcome : BringUp} (h : Course cfg t ms outcome t')
    (hpointed : WasPointed id (ms.map ApMove.act)) :
    ∃ ms₁ ms₂ started abandoned t₁, ms = ms₁ ++ ms₂
      ∧ Sweep cfg (t.size - 1) 1 t ms₁ started abandoned t₁ ∧ Performs [.line] t₁ ms₂ t'
      ∧ WasPointed id (ms₁.map ApMove.act) := by
  have hline : ∀ {t t' : ProcessorTable} {ms : List ApMove}, Performs [.line] t ms t' →
      ¬WasPointed id (ms.map ApMove.act) := fun h => not_wasPointed (h.forall_acts (by simp))
  cases h with
  | alone _ reports => exact absurd hpointed (hline reports)
  | swept _ sweep reports =>
    rw [List.map_append] at hpointed
    exact ⟨_, _, _, _, _, rfl, sweep, reports,
      (wasPointed_append.mp hpointed).resolve_right (hline reports)⟩

/-- **Only listed processors** are sent a STARTUP. -/
theorem Course.mem_ids {outcome : BringUp} (h : Course cfg t ms outcome t')
    (hpointed : WasPointed id (ms.map ApMove.act)) : id ∈ t.ids := by
  obtain ⟨ms₁, ms₂, started, abandoned, t₁, -, sweep, -, a, ha, hstartup⟩ :=
    h.pointed_of_swept hpointed
  obtain ⟨j, -, hlisted⟩ := sweep.addressee a ha id (ApAct.addressee?_of_isStartup hstartup)
  exact List.mem_of_getElem? hlisted

/-- **The fate of every processor** that a course pointed at the trampoline. -/
theorem Course.fate {outcome : BringUp} (h : Course cfg t ms outcome t') (hids : t.ids.Nodup)
    (hi : t.ids[i]? = some id) (hpointed : WasPointed id (ms.map ApMove.act)) :
    Fate id (ms.map ApMove.act) (t'.isStarted i) := by
  obtain ⟨ms₁, ms₂, started, abandoned, t₁, rfl, sweep, reports, hswept⟩ :=
    h.pointed_of_swept hpointed
  rw [List.map_append]
  exact (sweep.fate hids hi hswept).append (reports.forall_acts (by simp))
    (reports.of_line.1.isStarted i)

end AllProcessors

/-! ## Giving the page back -/

namespace ApScene

variable {W : Type}

/-- What was done so far, without the tables. -/
def acts (s : ApScene W) : List ApAct :=
  s.journal.map ApMove.act

/-- **Every processor that was sent a STARTUP** runs the kernel, or was reset since its last one. -/
def AllParked (s : ApScene W) : Prop :=
  ∀ p ∈ s.table.cpus, WasPointed p.apicId s.acts →
    p.started = true ∨ ResetSince p.apicId true s.acts

/-- **A processor strays**: it was sent a STARTUP, its flag is down, and the INIT that should have
parked it was refused. -/
def HasStray (s : ApScene W) : Prop :=
  ∃ p ∈ s.table.cpus, WasPointed p.apicId s.acts ∧ p.started = false
    ∧ ResetSince p.apicId false s.acts

instance (s : ApScene W) : Decidable s.AllParked :=
  inferInstanceAs (Decidable (∀ p ∈ s.table.cpus, _))

instance (s : ApScene W) : Decidable s.HasStray :=
  inferInstanceAs (Decidable (∃ p ∈ s.table.cpus, _))

end ApScene

/-- **The page is given back safely exactly when no processor strays.** STARTUPs are sent to listed
processors only. -/
theorem quiescent_allParked_iff {W : Type} (env : ApEnvironment W) (cfg : BringUpConfig) (w : W)
    (t : ProcessorTable) (hids : t.ids.Nodup) :
    let s := (env.bringUp cfg w t).2
    (∀ id, WasPointed id s.acts → id ∈ s.table.ids)
      ∧ ((s.table.ensureQuiescent = .ok () → s.AllParked)
        ↔ ¬(s.table.ensureQuiescent = .ok () ∧ s.HasStray)) := by
  obtain ⟨hcourse, -⟩ := env.bringUp_course cfg w t
  generalize (env.bringUp cfg w t).2 = s at hcourse
  -- Of the three fates one strays, and each of the others is what `AllParked` asks for.
  have hfate : ∀ p ∈ s.table.cpus, WasPointed p.apicId s.acts → Fate p.apicId s.acts p.started := by
    intro p hp hpointed
    obtain ⟨i, hi⟩ := List.getElem?_of_mem hp
    have hlisted : t.ids[i]? = some p.apicId :=
      hcourse.settles.1.ids ▸ ProcessorTable.ids_get? hi
    have hflag : s.table.isStarted i = p.started := by
      unfold ProcessorTable.isStarted
      rw [show s.table.get? i = some p from hi]
    exact hflag ▸ hcourse.fate hids hlisted hpointed
  refine ⟨fun id hpointed => ?_, ?_, ?_⟩
  · rw [hcourse.settles.1.ids]
    exact hcourse.mem_ids hpointed
  · rintro hsafe ⟨hquiescent, p, hp, hpointed, hdown, hrefused⟩
    have hor := hsafe hquiescent p hp hpointed
    cases hfate p hp hpointed with
    | running up _ => exact Bool.false_ne_true (hdown.symm.trans up)
    | parked _ once => exact once hrefused
    | stray _ once => exact hor.elim (fun up => Bool.false_ne_true (hdown.symm.trans up)) once
  · intro hnone hquiescent p hp hpointed
    cases hfate p hp hpointed with
    | running up _ => exact .inl up
    | parked reset _ => exact .inr reset
    | stray refused _ =>
      cases hdown : p.started with
      | true => exact .inl rfl
      | false => exact absurd ⟨hquiescent, p, hp, hpointed, hdown, refused⟩ hnone

namespace Mute

/-- Nobody answers. The first INITs are granted, as many as are left, and the others refused. -/
def environment : ApEnvironment Nat where
  prepare _ _ _ left := ⟨.ok (), [], left⟩
  sendInit id _ left := ⟨if left = 0 then .error (.ipiTimeout id) else .ok (), [], left - 1⟩
  sendStartup _ _ _ left := ⟨.ok (), [], left⟩
  delay _ _ left := ⟨(), [], left⟩
  relax _ left := ⟨(), [], left⟩

/-- The boot processor and one other. -/
def table : ProcessorTable :=
  (({} : ProcessorTable).discover 0 [4]).2

/-- One STARTUP, and one look for an answer. -/
def pacing : BringUpConfig :=
  { startupWait := ⟨1⟩, secondStartup := false }

/-- The scene after bring-up with so many granted INITs. -/
def scene (left : Nat) : ApScene Nat :=
  (environment.bringUp pacing left table).2

theorem nodup_table : table.ids.Nodup :=
  ProcessorTable.nodup_ids_discover (t := {}) List.nodup_nil 0 [4]

theorem quiescent_scene (left : Nat) : (scene left).table.ensureQuiescent = .ok () := by
  have htable : table.Quiet := ProcessorTable.ensureQuiescent_eq_ok.mp rfl
  exact ProcessorTable.ensureQuiescent_eq_ok.mpr
    ((environment.bringUp_course pacing left table).1.quiet htable)

end Mute

open Mute in
/-- With two INITs the silent processor is parked. -/
theorem quiescent_allParked_iff_mute :
    table.ids.Nodup ∧ WasPointed 4 (scene 2).acts ∧ (scene 2).AllParked := by
  have hpointed : WasPointed 4 (scene 2).acts := by decide +kernel
  have hnone : ¬(scene 2).HasStray := by decide +kernel
  have hquiescent := quiescent_scene 2
  obtain ⟨-, hsafe⟩ := quiescent_allParked_iff environment pacing 2 table nodup_table
  unfold scene at hpointed hnone hquiescent ⊢
  generalize (environment.bringUp pacing 2 table).2 = s at hpointed hnone hquiescent hsafe ⊢
  exact ⟨nodup_table, hpointed, hsafe.mpr (fun h => hnone h.2) hquiescent⟩

open Mute in
/-- **With one INIT the silent processor strays.** The table is quiescent all the same. -/
theorem quiescent_not_allParked :
    (scene 1).table.ensureQuiescent = .ok () ∧ ¬(scene 1).AllParked :=
  ⟨quiescent_scene 1, by decide +kernel⟩

end Interrupts
