import Interrupts.Processor.Table

/-!
# Flags and states

Two parties write to the processor table while processors are started. Bring-up stores states, one
position at a time; the processors raise their flags, whenever they come to it. Neither changes what
the other one writes, the APIC ids or the number of processors. What a table shows is its APIC ids
by position, the states and the flags, and this module says what the two kinds of change do to
them.
-/

namespace Interrupts.ProcessorTable

/-- The APIC ids of the table, by position. -/
def ids (t : ProcessorTable) : List UInt32 :=
  t.cpus.map Processor.apicId

/-- The identifiers of the table are those of its processors, at the same places. -/
theorem ids_get? {t : ProcessorTable} {i : Nat} {p : Processor} (h : t.get? i = some p) :
    t.ids[i]? = some p.apicId := by
  unfold ids
  rw [List.getElem?_map]
  exact congrArg (Option.map Processor.apicId) h

theorem state?_eq_some {t : ProcessorTable} {i : Nat} {s : ProcessorState} :
    t.state? i = some s ↔ ∃ p, t.get? i = some p ∧ p.state = s :=
  Option.map_eq_some_iff

theorem state?_get? {t : ProcessorTable} {i : Nat} {p : Processor} (h : t.get? i = some p) :
    t.state? i = some p.state :=
  state?_eq_some.mpr ⟨p, h, rfl⟩

theorem state?_eq_none {t : ProcessorTable} {i : Nat} : t.state? i = none ↔ t.size ≤ i :=
  Option.map_eq_none_iff.trans List.getElem?_eq_none_iff

/-- A flag is up when there is a processor at the place and its flag is up. -/
theorem isStarted_eq_true {t : ProcessorTable} {i : Nat} :
    t.isStarted i = true ↔ ∃ p, t.get? i = some p ∧ p.started = true := by
  unfold isStarted
  cases t.get? i with
  | none => exact ⟨fun h => (nomatch h), fun ⟨_, h, _⟩ => (nomatch h)⟩
  | some p => exact ⟨fun h => ⟨p, rfl, h⟩, fun ⟨_, h, hp⟩ => Option.some.inj h ▸ hp⟩

/-! ## Storing a state -/

/-- A modified table differs at one place, where there is a processor. -/
theorem get?_modify (t : ProcessorTable) (i j : Nat) (f : Processor → Processor) :
    (t.modify i f).get? j = if i = j then (t.get? j).map f else t.get? j := by
  show (t.cpus.modify i f)[j]? = _
  rw [List.getElem?_modify]
  split <;> cases h : t.cpus[j]? <;> simp [get?, h]

/-- A modification that keeps the identifier keeps the identifiers of the table. -/
theorem ids_modify (t : ProcessorTable) (i : Nat) {f : Processor → Processor}
    (hf : ∀ p, (f p).apicId = p.apicId) : (t.modify i f).ids = t.ids := by
  refine List.ext_getElem? fun j => ?_
  show ((t.modify i f).cpus.map Processor.apicId)[j]? = (t.cpus.map Processor.apicId)[j]?
  rw [List.getElem?_map, List.getElem?_map]
  show ((t.modify i f).get? j).map _ = (t.get? j).map _
  rw [get?_modify]
  by_cases hij : i = j
  · rw [if_pos hij, Option.map_map]
    exact congrArg (fun g => (t.get? j).map g) (funext hf)
  · rw [if_neg hij]

@[simp] theorem ids_setState (t : ProcessorTable) (i : Nat) (s : ProcessorState) :
    (t.setState i s).ids = t.ids :=
  t.ids_modify i fun _ => rfl

/-- Storing a state touches no flag. -/
@[simp] theorem isStarted_setState (t : ProcessorTable) (i j : Nat) (s : ProcessorState) :
    (t.setState i s).isStarted j = t.isStarted j := by
  unfold isStarted setState
  rw [get?_modify]
  by_cases hij : i = j
  · rw [if_pos hij]
    cases t.get? j <;> rfl
  · rw [if_neg hij]

/-- The stored state is read at its place, and every other state is as it was. -/
theorem state?_setState (t : ProcessorTable) (i j : Nat) (s : ProcessorState) :
    (t.setState i s).state? j = if i = j then (t.state? j).map fun _ => s else t.state? j := by
  unfold state? setState
  rw [get?_modify]
  split <;> cases t.get? j <;> rfl

theorem state?_setState_of_ne {t : ProcessorTable} {i j : Nat} (s : ProcessorState) (h : i ≠ j) :
    (t.setState i s).state? j = t.state? j := by
  rw [state?_setState, if_neg h]

/-! ## Raising flags -/

/-- **Flags were raised, and nothing else happened.** -/
structure Raises (t t' : ProcessorTable) : Prop where
  /-- The same processors at the same positions. -/
  ids : t'.ids = t.ids
  /-- Bring-up is in the same state with each of them. -/
  state? : ∀ i, t'.state? i = t.state? i
  /-- A flag that is up stays up. -/
  isStarted : ∀ i, t.isStarted i = true → t'.isStarted i = true

namespace Raises

theorem refl (t : ProcessorTable) : t.Raises t :=
  ⟨rfl, fun _ => rfl, fun _ h => h⟩

/-- Flags that were raised in two stretches were raised in the whole. -/
theorem trans {t t' t'' : ProcessorTable} (h : t.Raises t') (h' : t'.Raises t'') :
    t.Raises t'' where
  ids := h'.ids.trans h.ids
  state? := fun i => (h'.state? i).trans (h.state? i)
  isStarted := fun i hi => h'.isStarted i (h.isStarted i hi)

end Raises

/-- A processor raises its flag. -/
theorem raises_markStarted (t : ProcessorTable) (i : Nat) : t.Raises (t.markStarted i) where
  ids := t.ids_modify i fun _ => rfl
  state? := fun j => by
    unfold ProcessorTable.state? markStarted
    rw [get?_modify]
    split <;> cases t.get? j <;> rfl
  isStarted := fun j hj => by
    obtain ⟨p, hp, hstarted⟩ := isStarted_eq_true.mp hj
    refine isStarted_eq_true.mpr ?_
    unfold markStarted
    rw [get?_modify, hp]
    by_cases hij : i = j
    · exact ⟨{ p with started := true }, if_pos hij, rfl⟩
    · exact ⟨p, if_neg hij, hstarted⟩

/-- A processor that marks itself started raises a flag and does nothing else. -/
theorem raises_markStartedId (t : ProcessorTable) (id : UInt32) :
    t.Raises (t.markStartedId id) := by
  unfold markStartedId
  cases t.indexOf? id with
  | none => exact .refl t
  | some i => exact t.raises_markStarted i

/-- Processors raise their flags one after the other. -/
theorem raises_foldl {α : Type} {f : ProcessorTable → α → ProcessorTable}
    (hf : ∀ (t : ProcessorTable) a, t.Raises (f t a)) (as : List α) (t : ProcessorTable) :
    t.Raises (as.foldl f t) := by
  induction as generalizing t with
  | nil => exact .refl t
  | cons a as ih => exact (hf t a).trans (ih (f t a))

/-! ## Nobody in flight -/

/-- No processor is in flight. -/
def Quiet (t : ProcessorTable) : Prop :=
  ∀ i s, t.state? i = some s → s.inFlight = false

/-- The quiescence check passes exactly when no processor is in flight. -/
theorem ensureQuiescent_eq_ok {t : ProcessorTable} : t.ensureQuiescent = .ok () ↔ t.Quiet := by
  unfold ensureQuiescent
  cases h : t.cpus.find? fun p => p.state.inFlight with
  | none =>
    refine ⟨fun _ i s hs => ?_, fun _ => rfl⟩
    obtain ⟨p, hp, rfl⟩ := state?_eq_some.mp hs
    exact Bool.eq_false_iff.mpr (List.find?_eq_none.mp h p (List.mem_of_getElem? hp))
  | some p =>
    refine ⟨fun hok => (nomatch hok), fun hquiet => ?_⟩
    obtain ⟨i, hi⟩ := List.getElem?_of_mem (List.mem_of_find?_eq_some h)
    have hflight : p.state.inFlight = true :=
      List.find?_some (p := fun q : Processor => q.state.inFlight) h
    rw [hquiet i p.state (state?_get? hi)] at hflight
    exact nomatch hflight

theorem Raises.quiet {t t' : ProcessorTable} (h : t.Raises t') (ht : t.Quiet) : t'.Quiet :=
  fun i s hs => ht i s (h.state? i ▸ hs)

/-- Storing a state that is not in flight keeps quiet. -/
theorem Quiet.setState {t : ProcessorTable} (ht : t.Quiet) (i : Nat) {s : ProcessorState}
    (hs : s.inFlight = false) : (t.setState i s).Quiet := by
  intro j s' hs'
  rw [state?_setState] at hs'
  by_cases hij : i = j
  · rw [if_pos hij] at hs'
    obtain ⟨_, _, rfl⟩ := Option.map_eq_some_iff.mp hs'
    exact hs
  · rw [if_neg hij] at hs'
    exact ht j s' hs'

/-! ## Discovery -/

section Discovery

variable {P : ProcessorTable → Prop}
  (hnew : ∀ t id, t.indexOf? id = none → P t → P ⟨t.cpus ++ [{ apicId := id }]⟩)

include hnew

/-- A property that new processors keep is kept by a registration, which adds one or none. -/
theorem register_keeps {t : ProcessorTable} (ht : P t) (id : UInt32) : P (t.register id).2 := by
  unfold ProcessorTable.register
  cases hindex : t.indexOf? id with
  | some index => exact ht
  | none =>
    dsimp only
    by_cases hroom : t.size < capacity
    · rw [if_pos hroom]
      exact hnew t id hindex ht
    · rw [if_neg hroom]
      exact ht

/-- A property that new processors keep is kept by any list of registrations. -/
theorem registerAll_keeps {t : ProcessorTable} (ht : P t) (ids : List UInt32) :
    P (t.registerAll ids).2 := by
  induction ids generalizing t with
  | nil => exact ht
  | cons id ids ih =>
    have hregistered := register_keeps hnew ht id
    unfold ProcessorTable.registerAll
    generalize t.register id = r at hregistered
    obtain ⟨_ | index, t'⟩ := r
    · exact ih hregistered
    · exact ih hregistered

/-- **What discovery keeps**: it appends processors with new APIC ids, and marks one of them as the
boot processor. -/
theorem discover_keeps (hboot : ∀ t i, P t → P ((t.markStarted i).setState i .started))
    {t : ProcessorTable} (ht : P t) (boot : UInt32) (others : List UInt32) :
    P (t.discover boot others).2 := by
  refine registerAll_keeps hnew ?_ others
  have hregistered := register_keeps hnew ht boot
  unfold registerBoot
  generalize t.register boot = r at hregistered
  obtain ⟨_ | index, t'⟩ := r
  · exact hregistered
  · exact hboot t' index hregistered

end Discovery

/-- A processor that was just discovered is not in flight. -/
theorem Quiet.discover {t : ProcessorTable} (ht : t.Quiet) (boot : UInt32) (others : List UInt32) :
    (t.discover boot others).2.Quiet := by
  refine discover_keeps (fun t id _ ht j s hs => ?_) (fun t i ht => ?_) ht boot others
  · obtain ⟨p, hp, rfl⟩ := state?_eq_some.mp hs
    rcases List.mem_append.mp (List.mem_of_getElem? hp) with hold | hnew
    · obtain ⟨i, hi⟩ := List.getElem?_of_mem hold
      exact ht i p.state (state?_get? hi)
    · rw [List.mem_singleton.mp hnew]
      rfl
  · exact ((t.raises_markStarted i).quiet ht).setState i rfl

/-- **No APIC id is listed twice.** -/
theorem nodup_ids_discover {t : ProcessorTable} (ht : t.ids.Nodup) (boot : UInt32)
    (others : List UInt32) : (t.discover boot others).2.ids.Nodup := by
  refine discover_keeps (P := fun t => t.ids.Nodup) (fun t id hindex ht => ?_) (fun t i ht => ?_)
    ht boot others
  · have happended : ids ⟨t.cpus ++ [{ apicId := id }]⟩ = t.ids ++ [id] :=
      List.map_append
    rw [happended, List.nodup_append]
    refine ⟨ht, List.pairwise_singleton _ _, fun id' hid' id'' hid'' heq => ?_⟩
    obtain ⟨p, hp, hpid⟩ := List.mem_map.mp hid'
    -- the new identifier was looked for first, and was not in the table
    have hnone := List.findIdx?_eq_none_iff.mp hindex p hp
    rw [hpid, heq, List.mem_singleton.mp hid'', beq_self_eq_true] at hnone
    exact nomatch hnone
  · rw [ids_setState, (t.raises_markStarted i).ids]
    exact ht

end Interrupts.ProcessorTable
