import Mathlib.Data.List.Nodup
import Interrupts.Proofs.Processor.Obedience
import Interrupts.Proofs.Processor.Roster

/-!
# A position is a name

A processor is known to the rest of the system by its position in the table. That works as long as
no two processors share a position, none has two, and positions are given once and for all; and
whoever trusts the state `started` relies on the flag being raised. This module proves it for the
table of a machine in use: processors are registered and discovered, raise their flags, and are
brought up, in any order.

Bring-up does not have the table to itself meanwhile. Before each of its operations everybody else
may register and discover processors, raise flags, and go on with a bring-up of their own, as they
like (`Bystanders`); and they answer for the hardware. All tables that there have been are kept in
a trail.
-/

namespace Interrupts

namespace ProcessorTable

variable {t t' t'' : ProcessorTable} {id : UInt32} {i : Nat}

/-! ## Sound tables that grow -/

/-- **A sound table**: it is not too long, lists nobody twice, and says of no processor that it has
started before it raised its flag. -/
structure IsSound (t : ProcessorTable) : Prop where
  /-- The table has room for no more. -/
  size_le : t.size ≤ capacity
  /-- A processor has one position only. -/
  nodup : t.ids.Nodup
  /-- `started` is recorded for processors whose flag is up. -/
  flagged : ∀ i p, t.get? i = some p → p.state = .started → p.started = true

/-- **A table grows into another one**: at its end only, and flags stay raised. -/
structure Grows (t t' : ProcessorTable) : Prop where
  /-- Processors are added at the end, and nobody moves. -/
  ids : t.ids <+: t'.ids
  /-- A flag that is up stays up. -/
  isStarted : ∀ i, t.isStarted i = true → t'.isStarted i = true

theorem Grows.refl (t : ProcessorTable) : t.Grows t :=
  ⟨List.prefix_rfl, fun _ h => h⟩

theorem Grows.trans (h : t.Grows t') (h' : t'.Grows t'') : t.Grows t'' :=
  ⟨h.ids.trans h'.ids, fun i hi => h'.isStarted i (h.isStarted i hi)⟩

theorem Raises.grows (h : t.Raises t') : t.Grows t' :=
  ⟨h.ids ▸ List.prefix_rfl, h.isStarted⟩

/-- The index of an identifier is its first place among the identifiers. -/
theorem indexOf?_eq_findIdx? (t : ProcessorTable) (id : UInt32) :
    t.indexOf? id = t.ids.findIdx? (· == id) := by
  unfold ids
  rw [List.findIdx?_map]
  rfl

/-- **A position is given once and for all.** -/
theorem Grows.indexOf? (h : t.Grows t') (hi : t.indexOf? id = some i) :
    t'.indexOf? id = some i := by
  obtain ⟨more, hmore⟩ := h.ids
  rw [indexOf?_eq_findIdx?] at hi
  rw [indexOf?_eq_findIdx?, ← hmore, List.findIdx?_append, hi]
  rfl

/-- **A processor is found where it is listed**, when nobody is listed twice. -/
theorem indexOf?_of_ids_getElem? (hnodup : t.ids.Nodup) (h : t.ids[i]? = some id) :
    t.indexOf? id = some i := by
  obtain ⟨hlt, hid⟩ := List.getElem?_eq_some_iff.mp h
  rw [indexOf?_eq_findIdx?, List.findIdx?_eq_some_iff_getElem]
  refine ⟨hlt, by rw [hid]; exact beq_self_eq_true _, fun j hj hsame => ?_⟩
  have heq : t.ids[j] = t.ids[i] := (eq_of_beq hsame).trans hid.symm
  exact Nat.ne_of_lt hj ((List.Nodup.getElem_inj_iff hnodup).mp heq)

theorem IsSound.indexOf?_apicId {p : Processor} (h : t.IsSound) (hp : t.get? i = some p) :
    t.indexOf? p.apicId = some i :=
  indexOf?_of_ids_getElem? h.nodup (ids_get? hp)

/-- A change that keeps tables sound and lets them grow. -/
structure Sustains (t t' : ProcessorTable) : Prop where
  sound : t.IsSound → t'.IsSound
  grows : t.Grows t'

theorem Sustains.refl (t : ProcessorTable) : t.Sustains t :=
  ⟨fun h => h, .refl t⟩

theorem Sustains.trans (h : t.Sustains t') (h' : t'.Sustains t'') : t.Sustains t'' :=
  ⟨fun ht => h'.sound (h.sound ht), h.grows.trans h'.grows⟩

/-! ## The three kinds of change -/

/-- Appending a processor. -/
theorem sustains_append (hnew : t.indexOf? id = none) (hroom : t.size < capacity) :
    t.Sustains ⟨t.cpus ++ [{ apicId := id }]⟩ where
  sound h :=
    { size_le := by
        show (t.cpus ++ [_]).length ≤ _
        rw [List.length_append]
        exact hroom
      nodup := by
        rw [ids_append, List.nodup_append]
        refine ⟨h.nodup, List.pairwise_singleton _ _, fun a ha b hb heq => ?_⟩
        rw [heq, List.mem_singleton.mp hb] at ha
        exact indexOf?_eq_none.mp hnew ha
      flagged := fun i p hp hstate => by
        rcases List.mem_append.mp (List.mem_of_getElem? hp) with hold | hadded
        · obtain ⟨j, hj⟩ := List.getElem?_of_mem hold
          exact h.flagged j p hj hstate
        · rw [List.mem_singleton.mp hadded] at hstate
          exact nomatch hstate }
  grows :=
    { ids := by
        rw [ids_append]
        exact List.prefix_append _ _
      isStarted := fun i hi => by
        obtain ⟨p, hp, hstarted⟩ := isStarted_eq_true.mp hi
        have hlt : i < t.cpus.length := (List.getElem?_eq_some_iff.mp hp).1
        refine isStarted_eq_true.mpr ⟨p, ?_, hstarted⟩
        exact (List.getElem?_append_left hlt).trans hp }

/-- Raising a flag. -/
theorem sustains_markStarted (t : ProcessorTable) (i : Nat) : t.Sustains (t.markStarted i) where
  sound h :=
    { size_le := by
        show (t.cpus.modify i _).length ≤ _
        rw [List.length_modify]
        exact h.size_le
      nodup := (t.raises_markStarted i).ids ▸ h.nodup
      flagged := fun j p hp hstate => by
        unfold markStarted at hp
        rw [get?_modify] at hp
        by_cases hij : i = j
        · rw [if_pos hij] at hp
          obtain ⟨_, -, rfl⟩ := Option.map_eq_some_iff.mp hp
          rfl
        · rw [if_neg hij] at hp
          exact h.flagged j p hp hstate }
  grows := (t.raises_markStarted i).grows

/-- Storing a state; it may be `started` only where the flag is raised. -/
theorem sustains_setState {st : ProcessorState}
    (hst : st = .started → ∀ p, t.get? i = some p → p.started = true) :
    t.Sustains (t.setState i st) where
  sound h :=
    { size_le := by
        show (t.cpus.modify i _).length ≤ _
        rw [List.length_modify]
        exact h.size_le
      nodup := t.ids_setState i st ▸ h.nodup
      flagged := fun j p hp hstate => by
        unfold setState at hp
        rw [get?_modify] at hp
        by_cases hij : i = j
        · subst hij
          rw [if_pos rfl] at hp
          obtain ⟨p', hp', rfl⟩ := Option.map_eq_some_iff.mp hp
          exact hst hstate p' hp'
        · rw [if_neg hij] at hp
          exact h.flagged j p hp hstate }
  grows := ⟨t.ids_setState i st ▸ List.prefix_rfl, fun j hj => by rw [isStarted_setState]; exact hj⟩

/-! ## Registration and discovery -/

theorem register_of_listed (h : t.indexOf? id = some i) : t.register id = (some i, t) := by
  unfold register
  rw [h]

/-- **A new id gets the next position**, unless the table is full. -/
theorem register_of_new (h : t.indexOf? id = none) :
    t.register id = if t.size < capacity then (some t.size, ⟨t.cpus ++ [{ apicId := id }]⟩)
      else (none, t) := by
  unfold register
  rw [h]

/-- A registration finds the processor, appends it, or has no room for it. -/
theorem sustains_register (t : ProcessorTable) (id : UInt32) : t.Sustains (t.register id).2 := by
  cases h : t.indexOf? id with
  | some i =>
    rw [register_of_listed h]
    exact .refl t
  | none =>
    rw [register_of_new h]
    by_cases hroom : t.size < capacity
    · rw [if_pos hroom]
      exact sustains_append h hroom
    · rw [if_neg hroom]
      exact .refl t

/-- A list of registrations, one after another. -/
theorem sustains_registerAll (t : ProcessorTable) (ids : List UInt32) :
    t.Sustains (t.registerAll ids).2 := by
  induction ids generalizing t with
  | nil => exact .refl t
  | cons id ids ih =>
    have hregistered := t.sustains_register id
    unfold registerAll
    generalize t.register id = r at hregistered
    obtain ⟨_ | i, t'⟩ := r
    · exact hregistered.trans (ih t')
    · exact hregistered.trans (ih t')

/-- The boot processor is registered and marked as started, the flag before the state. -/
theorem sustains_registerBoot (t : ProcessorTable) (boot : UInt32) :
    t.Sustains (t.registerBoot boot) := by
  have hregistered := t.sustains_register boot
  unfold registerBoot
  generalize t.register boot = r at hregistered
  obtain ⟨_ | i, t'⟩ := r
  · exact hregistered
  · -- The flag is raised before the state says so.
    refine hregistered.trans ((t'.sustains_markStarted i).trans (sustains_setState ?_))
    intro _ p hp
    unfold markStarted at hp
    rw [get?_modify, if_pos rfl] at hp
    obtain ⟨_, -, rfl⟩ := Option.map_eq_some_iff.mp hp
    rfl

theorem sustains_discover (t : ProcessorTable) (boot : UInt32) (others : List UInt32) :
    t.Sustains (t.discover boot others).2 :=
  (t.sustains_registerBoot boot).trans (sustains_registerAll _ others)

end ProcessorTable

/-! ## A table in use -/

/-- **A change of the table** that anybody may make at any time. -/
inductive TableChange where
  /-- A processor is registered. -/
  | register (apicId : UInt32)
  /-- The boot processor is registered, and the others after it. -/
  | discover (boot : UInt32) (others : List UInt32)
  /-- A processor raises its flag. -/
  | raise (index : Nat)
  /-- A step of another bring-up, which stores `started` only where it has seen the flag. -/
  | store (index : Nat) (state : ProcessorState)
  deriving DecidableEq, Repr

/-- Make a change. -/
def TableChange.apply : TableChange → ProcessorTable → ProcessorTable
  | register id, t => (t.register id).2
  | discover boot others, t => (t.discover boot others).2
  | raise i, t => t.markStarted i
  | store i st, t => if st = .started ∧ t.isStarted i = false then t else t.setState i st

open ProcessorTable in
/-- Every change that bystanders can make keeps the table sound and lets it only grow. -/
theorem TableChange.sustains (c : TableChange) (t : ProcessorTable) : t.Sustains (c.apply t) := by
  cases c with
  | register id => exact t.sustains_register id
  | discover boot others => exact t.sustains_discover boot others
  | raise i => exact t.sustains_markStarted i
  | store i st =>
    show t.Sustains (if _ then t else t.setState i st)
    split
    next => exact .refl t
    -- a bystander that stores `started` for a processor without its flag is ignored
    next hseen =>
      refine sustains_setState fun hst p hp => ?_
      have hstarted : t.isStarted i = true := by
        rw [← Bool.not_eq_false]
        exact fun h => hseen ⟨hst, h⟩
      unfold isStarted at hstarted
      rwa [hp] at hstarted

/-- What is about to be done when others get their turn. -/
inductive ApOccasion where
  | prepare (index : Nat) (apicId : UInt32)
  | init (apicId : UInt32)
  | startup (apicId : UInt32) (page : UInt8)
  | delay (microseconds : UInt32)
  | relax
  | look
  | store
  | line
  deriving DecidableEq, Repr

/-- **What others do on one occasion**: how the hardware answers, how the table is changed, and what
they remember. -/
structure Interlude (W : Type) where
  answer : Except BringUpError Unit
  changes : List TableChange
  world : W

/-- **Everybody else**, with a memory of type `W`. -/
class Bystanders (W : Type) where
  meanwhile : ApOccasion → ProcessorTable → W → Interlude W

/-- **The memory of the others, the table, and all tables so far.** -/
structure TableScene (W : Type) where
  world : W
  table : ProcessorTable := {}
  /-- The tables so far, from the empty one on, the current one last. -/
  trail : List ProcessorTable := [{}]

/-- The monad of a table in use; nothing stops it. -/
abbrev TableSceneM (W : Type) := EStateM Empty (TableScene W)

namespace TableScene

variable {W : Type}

/-- The next table. -/
def enter (s : TableScene W) (t : ProcessorTable) : TableScene W :=
  { s with table := t, trail := s.trail ++ [t] }

/-- Make changes one after the other. -/
def change (s : TableScene W) (cs : List TableChange) : TableScene W :=
  cs.foldl (fun s c => s.enter (c.apply s.table)) s

end TableScene

namespace TableSceneM

variable {W : Type} [Bystanders W]

/-- Everybody else has a turn. -/
def meet (o : ApOccasion) : TableSceneM W (Except BringUpError Unit) := fun s =>
  let r := Bystanders.meanwhile o s.table s.world
  .ok r.answer { s.change r.changes with world := r.world }

instance : Logger (TableSceneM W) where
  log _ _ := do
    let _ ← meet .line

instance : MonadStateOf ProcessorTable (TableSceneM W) where
  get := do
    let _ ← meet .look
    fun s => .ok s.table s
  set t := fun s => .ok ⟨⟩ (s.enter t)
  modifyGet f := do
    let _ ← meet .store
    fun s => .ok (f s.table).1 (s.enter (f s.table).2)

instance : ApControl Unit (TableSceneM W) where
  prepare _ i id := meet (.prepare i id)
  sendInit _ id := meet (.init id)
  sendStartup _ id page := meet (.startup id page)
  delay _ us := do
    let _ ← meet (.delay us)
  relax _ := do
    let _ ← meet .relax

end TableSceneM

/-- **A request to the table.** -/
inductive TableRequest where
  | register (apicId : UInt32)
  | discover (boot : UInt32) (others : List UInt32)
  | raise (index : Nat)
  | bringUp (cfg : BringUpConfig)
  deriving Repr

/-- Serve a request. -/
def TableRequest.serve {W : Type} [Bystanders W] : TableRequest → TableSceneM W Unit
  | register id => do
    let _ ← modifyGetThe ProcessorTable fun t => t.register id
  | discover boot others => do
    let _ ← ProcessorTable.discoverHere boot others
  | raise i => modifyThe ProcessorTable fun t => t.markStarted i
  | bringUp cfg => do
    let _ ← BringUp.run () cfg

/-! ## Everything sustains the table -/

namespace TableScene

variable {W : Type} {s s' s'' : TableScene W} {t : ProcessorTable}

/-- **A sound trail**: it leads from the empty table to the current one over sound tables that
grow. -/
structure IsSound (s : TableScene W) : Prop where
  /-- The trail begins with the empty table. -/
  first : s.trail.head? = some {}
  /-- It ends with the current one. -/
  last : s.trail.getLast? = some s.table
  sound : ∀ t ∈ s.trail, t.IsSound
  /-- Of any two tables on it, the earlier grows into the later. -/
  grows : s.trail.Pairwise ProcessorTable.Grows

/-- A stretch of a sound trail. -/
structure Sustains (s s' : TableScene W) : Prop where
  sound : s.IsSound → s'.IsSound
  grows : s.table.Grows s'.table

theorem Sustains.trans (h : s.Sustains s') (h' : s'.Sustains s'') : s.Sustains s'' :=
  ⟨fun hs => h'.sound (h.sound hs), h.grows.trans h'.grows⟩

/-- All tables of a sound trail have grown into the current one. -/
theorem IsSound.grows_table (h : s.IsSound) (ht : t ∈ s.trail) : t.Grows s.table := by
  obtain ⟨before, htrail⟩ := List.getLast?_eq_some_iff.mp h.last
  have hpairwise := h.grows
  rw [htrail] at ht hpairwise
  rcases List.mem_append.mp ht with hold | hlast
  · exact (List.pairwise_append.mp hpairwise).2.2 t hold s.table List.mem_cons_self
  · rw [List.mem_singleton.mp hlast]
    exact .refl _

/-- **The next table.** -/
theorem sustains_enter (h : s.table.Sustains t) : s.Sustains (s.enter t) where
  sound hs :=
    { first := by
        show (s.trail ++ [t]).head? = _
        rw [List.head?_append, hs.first]
        rfl
      last := List.getLast?_concat
      sound := fun t' ht' => by
        rcases List.mem_append.mp ht' with hold | hnew
        · exact hs.sound t' hold
        · rw [List.mem_singleton.mp hnew]
          exact h.sound (hs.sound _ (List.mem_of_getLast? hs.last))
      grows := List.pairwise_append.mpr ⟨hs.grows, List.pairwise_singleton _ _,
        fun t₁ ht₁ t₂ ht₂ => by
          rw [List.mem_singleton.mp ht₂]
          exact (hs.grows_table ht₁).trans h.grows⟩ }
  grows := h.grows

/-- A list of changes by bystanders, one after another. -/
theorem sustains_change (s : TableScene W) (cs : List TableChange) : s.Sustains (s.change cs) := by
  induction cs generalizing s with
  | nil => exact ⟨fun h => h, .refl _⟩
  | cons c cs ih => exact (sustains_enter (c.sustains s.table)).trans (ih _)

/-- **The discipline of a table in use**; nothing may stop it. -/
def sustaining (W : Type) : Discipline Empty (TableScene W) where
  keeps := Sustains
  stops _ _ _ := False
  refl _ := ⟨fun h => h, .refl _⟩
  trans := Sustains.trans
  stops_of_keeps _ h := h

end TableScene

namespace TableSceneM

open TableScene BringUp

variable {W : Type} [Bystanders W] {s s' : TableScene W}

/-- Whatever the surroundings answer and do at an occasion keeps the scene sound. -/
theorem sustains_meet (o : ApOccasion) (s : TableScene W) :
    ∃ answer s', meet o s = .ok answer s' ∧ s.Sustains s' := by
  obtain ⟨hsound, hgrows⟩ := s.sustains_change (Bystanders.meanwhile o s.table s.world).changes
  refine ⟨_, _, rfl, fun hs => ?_, hgrows⟩
  obtain ⟨first, last, sound, grows⟩ := hsound hs
  exact ⟨first, last, sound, grows⟩

theorem obeys_meet (o : ApOccasion) (s : TableScene W) : (sustaining W).Obeys s (meet o) := by
  obtain ⟨answer, s', hrun, hkeeps⟩ := sustains_meet o s
  exact .step hrun hkeeps

/-- Others have a turn, and their answer does not matter. -/
theorem obeys_turn (o : ApOccasion) (s : TableScene W) :
    (sustaining W).Obeys s (do let _ ← meet o) :=
  (obeys_meet o s).bind fun _ _ => .pure _

/-- A look shows the table that there is. -/
theorem getThe_eq_ok {t : ProcessorTable}
    (h : (getThe ProcessorTable : TableSceneM W ProcessorTable) s = .ok t s') : t = s'.table := by
  obtain ⟨_, s₁, -, h⟩ := bind_eq_ok.mp h
  cases h
  rfl

theorem obeys_look (s : TableScene W) :
    (sustaining W).Obeys s (getThe ProcessorTable : TableSceneM W ProcessorTable) :=
  (obeys_meet .look s).bind fun {_ s'} _ _ => .step (a := s'.table) rfl ((sustaining W).refl s')

/-- **Changing the table** after others had a turn. -/
theorem obeys_modifyGet {α : Type} {f : ProcessorTable → α × ProcessorTable} {s : TableScene W}
    (h : ∀ t, s.table.Grows t → t.Sustains (f t).2) :
    (sustaining W).Obeys s (modifyGetThe ProcessorTable f : TableSceneM W α) :=
  (obeys_meet .store s).bind fun {_ _} _ hkeeps => .step rfl (sustains_enter (h _ hkeeps.grows))

/-- Log lines let the bystanders in once for each line. -/
theorem obeys_logAll (lines : List Record) (s : TableScene W) :
    (sustaining W).Obeys s (logAll lines : TableSceneM W Unit) := by
  induction lines generalizing s with
  | nil => exact .pure _
  | cons r rs ih => exact (obeys_turn .line s).bind fun _ _ => ih _

/-- Discovery changes the table in one go, and logs what it found. -/
theorem obeys_discoverHere (boot : UInt32) (others : List UInt32) (s : TableScene W) :
    (sustaining W).Obeys s (ProcessorTable.discoverHere boot others : TableSceneM W Nat) := by
  refine (obeys_look s).bind fun {t s₁} hlook _ => ?_
  have hsustains : s₁.Sustains (s₁.enter (t.discover boot others).2) := by
    rw [getThe_eq_ok hlook]
    exact sustains_enter (s₁.table.sustains_discover boot others)
  have hset : (sustaining W).Obeys s₁
      (set (t.discover boot others).2 : TableSceneM W PUnit) := .step rfl hsustains
  exact hset.bind fun _ _ => (obeys_logAll _ _).bind fun _ _ => .pure _

/-- **The operations of bring-up sustain the table**: that a processor has started is stored after
its flag was seen, and flags stay raised. -/
theorem permits (cfg : BringUpConfig) (i : Nat) (id : UInt32) :
    (sustaining W).Permits () cfg i id where
  look := obeys_look
  mark st s hsaw := by
    refine obeys_modifyGet fun t ht => ProcessorTable.sustains_setState fun hst p hp => ?_
    -- the flag was seen in an earlier table, and flags stay up in the tables after it
    obtain ⟨s₀, t₀, hlook, hstarted⟩ := hsaw hst
    rw [getThe_eq_ok hlook] at hstarted
    obtain ⟨p', hp', hp'started⟩ :=
      ProcessorTable.isStarted_eq_true.mp (ht.isStarted i hstarted)
    cases hp'.symm.trans hp
    exact hp'started
  line _ _ := obeys_turn .line
  sendInit := obeys_meet _
  sendStartup := obeys_meet _
  delay _ := obeys_turn _
  relax := obeys_turn _

/-- Bringing up any processor is permitted, since only its own state is stored. -/
theorem permitsAll (cfg : BringUpConfig) : (sustaining W).PermitsAll () cfg where
  look := obeys_look
  line _ _ := obeys_turn .line
  one _ _ _ := (permits cfg _ _).obeys_startOne (obeys_meet _) _

/-- **Every request sustains the table.** -/
theorem obeys_serve (r : TableRequest) (s : TableScene W) : (sustaining W).Obeys s r.serve := by
  cases r with
  | register id =>
    exact (obeys_modifyGet fun t _ => t.sustains_register id).bind fun _ _ => .pure _
  | discover boot others => exact (obeys_discoverHere boot others s).bind fun _ _ => .pure _
  | raise i => exact obeys_modifyGet fun t _ => t.sustains_markStarted i
  | bringUp cfg => exact ((permitsAll cfg).obeys_run s).bind fun _ _ => .pure _

/-- And so does any number of them. -/
theorem obeys_requests (rs : List TableRequest) (s : TableScene W) :
    (sustaining W).Obeys s (forM rs TableRequest.serve : TableSceneM W PUnit) := by
  induction rs generalizing s with
  | nil => exact .pure _
  | cons r rs ih =>
    rw [List.forM_cons]
    exact (obeys_serve r s).bind fun _ _ => ih _

end TableSceneM

/-! ## Positions -/

/-- **A position is a name.** Whatever is requested of a fresh table of processors, and whatever
everybody else does meanwhile, the requests are served, and of all tables that there are on the way:

* none lists more than 64 processors, or one twice, and each is found at the position where it is
  listed;
* registering a listed id answers its position and changes nothing; registering another one appends
  it and answers its position, which is the old length, unless 64 are listed: then it answers
  nothing and changes nothing;
* no processor is in the state `started` that has not raised its flag;
* each begins with all earlier ones, so that an id that has a position keeps it; and no flag that
  was raised in an earlier one is cleared. -/
theorem positions_are_names {W : Type} [Bystanders W] (w : W) (requests : List TableRequest) :
    ∃ s, (forM requests TableRequest.serve : TableSceneM W PUnit) { world := w } = .ok ⟨⟩ s
      ∧ s.trail.head? = some {} ∧ s.trail.getLast? = some s.table
      ∧ (∀ t ∈ s.trail, t.size ≤ 64 ∧ t.ids.Nodup
        ∧ (∀ i p, t.get? i = some p →
          i < t.size ∧ t.indexOf? p.apicId = some i ∧ (p.state = .started → p.started = true))
        ∧ ∀ id, (∀ i, t.indexOf? id = some i → t.register id = (some i, t))
          ∧ (t.indexOf? id = none → t.register id
            = if t.size = 64 then (none, t) else (some t.size, ⟨t.cpus ++ [{ apicId := id }]⟩)))
      ∧ s.trail.Pairwise fun t t' => t.ids <+: t'.ids
        ∧ (∀ id i, t.indexOf? id = some i → t'.indexOf? id = some i)
        ∧ ∀ i, t.isStarted i = true → t'.isStarted i = true := by
  have hobeys := TableSceneM.obeys_requests requests { world := w }
  cases hrun : (forM requests TableRequest.serve : TableSceneM W PUnit) { world := w } with
  | error e s => exact nomatch e
  | ok u s =>
    -- the trail begins with the empty table, which is sound for want of processors
    have hfresh : TableScene.IsSound ({ world := w } : TableScene W) :=
      { first := rfl
        last := rfl
        sound := fun t ht => by
          rw [List.mem_singleton.mp ht]
          exact ⟨Nat.zero_le _, List.nodup_nil, fun i p hp => nomatch hp⟩
        grows := List.pairwise_singleton _ _ }
    obtain ⟨first, last, sound, grows⟩ := (hobeys.returns hrun).sound hfresh
    refine ⟨s, rfl, first, last, fun t ht => ?_, grows.imp fun h => ⟨h.ids, fun id i => h.indexOf?,
      h.isStarted⟩⟩
    have hsound := sound t ht
    have hsize : t.size ≤ 64 := hsound.size_le
    refine ⟨hsize, hsound.nodup, fun i p hp => ⟨?_, hsound.indexOf?_apicId hp,
      hsound.flagged i p hp⟩, fun id => ⟨fun i => ProcessorTable.register_of_listed,
      fun hnew => ?_⟩⟩
    · exact (List.getElem?_eq_some_iff.mp hp).1
    · have hfull : ¬t.size < ProcessorTable.capacity ↔ t.size = 64 := by
        show ¬t.size < 64 ↔ _
        omega
      rw [ProcessorTable.register_of_new hnew, ← ite_not]
      exact if_congr hfull rfl rfl

end Interrupts
