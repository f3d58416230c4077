import Interrupts.Proofs.Registry.Deliveries
import Mathlib.Data.List.Nodup

/-!
# A map from lines to lists of handlers

`LineMap` is the registry as a user has to think of it: for every line the handlers that stand on
it, the newest first, and the number of identities handed out. `LineMap.Step` says what each request
does to the map, what is replied and what is seen.

Whatever the requests and their order, the map can be read off the replies: what stands on a line is
what was installed there and not removed since (`chain_eq_standing`), and no two handlers ever share
an identity (`nodup_installs`), as long as the identities fit their 64 bits.
-/

namespace Interrupts

variable {H C : Type}

/-! ## The map -/

/-- **The registry as its users see it.** -/
structure LineMap (H : Type) where
  /-- The handlers of a line, the newest first. -/
  chain : UInt8 → List (HandlerEntry H) := fun _ => []
  /-- The number of identities handed out. -/
  issued : Nat := 0

namespace LineMap

/-- The identity that is handed out after `n` others. -/
def identity (n : Nat) : HandlerId :=
  ⟨UInt64.ofNat (n + 1)⟩

/-- The map with other handlers on a line. -/
def put (m : LineMap H) (irq : UInt8) (entries : List (HandlerEntry H)) : LineMap H :=
  { m with chain := Function.update m.chain irq entries }

/-- The map with one more handler, in front of a line and under a new identity. -/
def push (m : LineMap H) (irq : UInt8) (h : H) (cpu : Option Nat) : LineMap H :=
  { m.put irq (⟨identity m.issued, cpu, h⟩ :: m.chain irq) with issued := m.issued + 1 }

/-- **What a request does to the map**, with its reply and what is seen. -/
inductive Step : LineMap H → LineRecord H C → LineMap H → Prop
  /-- A handler is put in front, under a new identity. -/
  | install {m : LineMap H} {irq : UInt8} {h : H} {cpu : Option Nat} (hline : irq.toNat < 224) :
      Step m ⟨.install irq h cpu, .installed (.ok (identity m.issued)), []⟩ (m.push irq h cpu)
  /-- There is no such line: nothing changes, and no identity is used up. -/
  | refuse {m : LineMap H} {irq : UInt8} {h : H} {cpu : Option Nat} (hline : 224 ≤ irq.toNat) :
      Step m ⟨.install irq h cpu, .installed (.error (.invalidLine irq)), []⟩ m
  /-- A handler of the line is taken out and handed back, and the others keep their order. -/
  | remove {m : LineMap H} {irq : UInt8} {before after : List (HandlerEntry H)}
      {found : HandlerEntry H} (hchain : m.chain irq = before ++ found :: after) :
      Step m ⟨.remove irq found.id, .removed (.ok found.handler), []⟩ (m.put irq (before ++ after))
  /-- The line has no handler of the identity: nothing changes. -/
  | keep {m : LineMap H} {irq : UInt8} {id : HandlerId} {error : IrqError}
      (habsent : ∀ e ∈ m.chain irq, e.id ≠ id) :
      Step m ⟨.remove irq id, .removed (.error error), []⟩ m
  /-- A look at the map. -/
  | look {m : LineMap H} {irq : UInt8} {id : HandlerId} {found : Bool}
      (hfound : found = true ↔ ∃ e ∈ m.chain irq, e.id = id) :
      Step m ⟨.isInstalled irq id, .isInstalled found, []⟩ m
  /-- A delivery asks handlers, and changes nothing. -/
  | deliver {m : LineMap H} {c : C} {vector : UInt8} {f f' : Frame} {cpu : Nat}
      {events : List (LineEvent H)} {outcome : DispatchOutcome}
      (hdelivers : Delivers m.chain vector cpu f events outcome f') :
      Step m ⟨.dispatch c vector f cpu, .dispatched outcome f', events⟩ m
  /-- Masking and unmasking are between the caller and the controller. -/
  | mask {m : LineMap H} {c : C} {irq : UInt8} {result : Except IrqError Unit}
      {events : List (LineEvent H)} : Step m ⟨.mask c irq, .masked result, events⟩ m
  | unmask {m : LineMap H} {c : C} {irq : UInt8} {result : Except IrqError Unit}
      {events : List (LineEvent H)} : Step m ⟨.unmask c irq, .unmasked result, events⟩ m

/-- **A run of the map**, one request after the other. -/
inductive Run : LineMap H → List (LineRecord H C) → LineMap H → Prop
  | nil {m : LineMap H} : Run m [] m
  | cons {m m' m'' : LineMap H} {record : LineRecord H C} {records : List (LineRecord H C)}
      (step : Step m record m') (rest : Run m' records m'') : Run m (record :: records) m''

end LineMap

/-! ## Reading the map off the replies -/

/-- The successful installations, each with its line, the oldest first. -/
def installs (records : List (LineRecord H C)) : List (UInt8 × HandlerEntry H) :=
  records.filterMap fun record => match record.request, record.reply with
    | .install irq h cpu, .installed (.ok id) => some (irq, ⟨id, cpu, h⟩)
    | _, _ => none

/-- The successful removals, each with its line, the oldest first. -/
def removals (records : List (LineRecord H C)) : List (UInt8 × HandlerId) :=
  records.filterMap fun record => match record.request, record.reply with
    | .remove irq id, .removed (.ok _) => some (irq, id)
    | _, _ => none

/-- **What stands on a line**: what was installed there and not removed, the newest first. -/
def standing (records : List (LineRecord H C)) (irq : UInt8) : List (HandlerEntry H) :=
  ((installs records).reverse.filter fun p =>
    p.1 = irq ∧ (irq, p.2.id) ∉ removals records).map Prod.snd

theorem installs_append (past records : List (LineRecord H C)) :
    installs (past ++ records) = installs past ++ installs records :=
  List.filterMap_append

theorem removals_append (past records : List (LineRecord H C)) :
    removals (past ++ records) = removals past ++ removals records :=
  List.filterMap_append

/-- A record of neither an installation nor a removal leaves what stands as it is. -/
theorem standing_append_of_nil {past records : List (LineRecord H C)}
    (hi : installs records = []) (hr : removals records = []) :
    standing (past ++ records) = standing past := by
  funext irq
  rw [standing, installs_append, removals_append, hi, hr, List.append_nil, List.append_nil]
  rfl

/-- An installation puts a handler in front of what stands on its line, unless a handler of that
identity was removed from there before. -/
theorem standing_append_install {past records : List (LineRecord H C)} {irq : UInt8}
    {e : HandlerEntry H} (hi : installs records = [(irq, e)]) (hr : removals records = [])
    (hnew : (irq, e.id) ∉ removals past) :
    standing (past ++ records) = Function.update (standing past) irq (e :: standing past irq) := by
  funext other
  rw [standing, installs_append, removals_append, hi, hr, List.append_nil, List.reverse_append]
  by_cases hline : other = irq
  · subst hline
    -- the new handler stands in front, since its identity was never removed
    rw [Function.update_self, List.reverse_singleton, List.singleton_append,
      List.filter_cons_of_pos (by simpa using hnew)]
    rfl
  · rw [Function.update_of_ne hline, List.reverse_singleton, List.singleton_append,
      List.filter_cons_of_neg (by simpa using fun h => absurd h.symm hline)]
    rfl

/-- A removal takes the handlers of one identity out of what stands on its line. -/
theorem standing_append_removal {past records : List (LineRecord H C)} {irq : UInt8}
    {id : HandlerId} (hi : installs records = []) (hr : removals records = [(irq, id)]) :
    standing (past ++ records)
      = Function.update (standing past) irq ((standing past irq).filter fun e => e.id ≠ id) := by
  funext other
  rw [standing, installs_append, removals_append, hi, hr, List.append_nil]
  by_cases hline : other = irq
  · subst hline
    rw [Function.update_self, standing, List.filter_map, List.filter_filter]
    refine congrArg (List.map Prod.snd) (List.filter_congr fun p _ => ?_)
    simp only [List.mem_append, List.mem_singleton, Prod.mk.injEq, true_and, not_or,
      Function.comp_apply, ← Bool.decide_and, decide_eq_decide]
    exact ⟨fun h => ⟨h.2.2, h.1, h.2.1⟩, fun h => ⟨h.2.1, h.2.2, h.1⟩⟩
  · rw [Function.update_of_ne hline, standing]
    refine congrArg (List.map Prod.snd) (List.filter_congr fun p _ => ?_)
    simp [hline]

/-- Among handlers of distinct identities, leaving out an identity leaves out one handler. -/
theorem filter_id_ne {before after : List (HandlerEntry H)} {found : HandlerEntry H}
    (h : ((before ++ found :: after).map HandlerEntry.id).Nodup) :
    (before ++ found :: after).filter (fun e => e.id ≠ found.id) = before ++ after := by
  rw [List.map_append, List.map_cons, List.nodup_middle, List.nodup_cons, ← List.map_append] at h
  have hother : ∀ e ∈ before ++ after, e.id ≠ found.id := fun e he heq =>
    h.1 (List.mem_map.mpr ⟨e, he, heq⟩)
  rw [List.filter_append, List.filter_cons_of_neg (by simp), ← List.filter_append]
  exact List.filter_eq_self.mpr fun e he => decide_eq_true (hother e he)

/-- A handler that stands on a line was installed there. -/
theorem mem_installs_of_standing {past : List (LineRecord H C)} {irq : UInt8} {e : HandlerEntry H}
    (h : e ∈ standing past irq) : (irq, e) ∈ installs past := by
  obtain ⟨⟨line, e'⟩, hmem, rfl⟩ := List.mem_map.mp h
  obtain ⟨hin, hline⟩ := List.mem_filter.mp hmem
  obtain ⟨rfl, -⟩ := of_decide_eq_true hline
  exact List.mem_reverse.mp hin

namespace LineMap

/-- **The map and the past**: what a map has to do with the records that led to it. -/
structure Remembers (m : LineMap H) (past : List (LineRecord H C)) : Prop where
  /-- The handlers of every line are those that stand there. -/
  chain : m.chain = standing past
  /-- The identities handed out are the first ones, in order. -/
  issued : (installs past).map (fun p => p.2.id) = (List.range m.issued).map identity
  /-- Only what was installed was removed. -/
  removed : ∀ p ∈ removals past, p.2 ∈ (installs past).map fun q => q.2.id

/-- Requests that install and remove nothing leave the standing handlers as they were. -/
theorem Remembers.append_of_nil {m : LineMap H} {past records : List (LineRecord H C)}
    (h : m.Remembers past) (hi : installs records = []) (hr : removals records = []) :
    m.Remembers (past ++ records) where
  chain := h.chain.trans (standing_append_of_nil hi hr).symm
  issued := by rw [installs_append, hi, List.append_nil, h.issued]
  removed := by rw [installs_append, removals_append, hi, hr, List.append_nil, List.append_nil]
                exact h.removed

/-- Identities are words, and distinct for as many handlers as a word can count. -/
theorem identity_injOn {n : Nat} (hn : n < UInt64.size) :
    ∀ a ∈ List.range n, ∀ b ∈ List.range n, identity a = identity b → a = b := by
  intro a ha b hb hab
  rw [List.mem_range] at ha hb
  have := congrArg (fun id => id.value.toNat) hab
  simp only [identity, UInt64.toNat_ofNat'] at this
  unfold UInt64.size at hn
  omega

variable {m m' : LineMap H} {past : List (LineRecord H C)}

/-- **Identities are never handed out twice**, before they wrap. -/
theorem Remembers.nodup (h : m.Remembers past) (hn : m.issued < UInt64.size) :
    ((installs past).map fun p => p.2.id).Nodup := by
  rw [h.issued]
  exact List.Nodup.map_on (identity_injOn hn) List.nodup_range

/-- The next identity is a new one. -/
theorem Remembers.identity_notMem (h : m.Remembers past) (hn : m.issued + 1 < UInt64.size) :
    identity m.issued ∉ (installs past).map fun p => p.2.id := by
  rw [h.issued]
  intro hmem
  obtain ⟨a, ha, heq⟩ := List.mem_map.mp hmem
  have := identity_injOn hn a (List.mem_range.mpr (by rw [List.mem_range] at ha; omega))
    m.issued (List.mem_range.mpr (by omega)) heq
  rw [List.mem_range] at ha
  omega

/-- The identities on a line are distinct. -/
theorem Remembers.nodup_chain (h : m.Remembers past) (hn : m.issued < UInt64.size) (irq : UInt8) :
    ((m.chain irq).map HandlerEntry.id).Nodup := by
  rw [h.chain, standing, List.map_map]
  refine List.Nodup.sublist (List.Sublist.map _ List.filter_sublist) ?_
  rw [List.map_reverse]
  exact List.nodup_reverse.mpr (h.nodup hn)

/-- An identity stands on one line only. -/
theorem Remembers.line_unique (h : m.Remembers past) (hn : m.issued < UInt64.size)
    {irq irq' : UInt8} {e e' : HandlerEntry H} (he : e ∈ m.chain irq) (he' : e' ∈ m.chain irq')
    (hid : e.id = e'.id) : irq = irq' := by
  rw [h.chain] at he he'
  have := List.inj_on_of_nodup_map (h.nodup hn) (mem_installs_of_standing he)
    (mem_installs_of_standing he') hid
  exact congrArg Prod.fst this

/-- The empty map remembers an empty past. -/
theorem empty_remembers : ({} : LineMap H).Remembers ([] : List (LineRecord H C)) where
  chain := rfl
  issued := rfl
  removed := fun _ hp => absurd hp List.not_mem_nil

/-! ## What a run leaves -/

/-- A request never takes an identity back. -/
theorem Step.issued_le {record : LineRecord H C} (step : Step m record m') :
    m.issued ≤ m'.issued := by
  cases step with
  | install => exact Nat.le_succ _
  | _ => exact Nat.le_refl _

/-- A run never takes an identity back. -/
theorem Run.issued_le {records : List (LineRecord H C)} (run : Run m records m') :
    m.issued ≤ m'.issued := by
  induction run with
  | nil => exact Nat.le_refl _
  | cons step _ ih => exact Nat.le_trans step.issued_le ih

/-- No more identities are handed out than were asked for. -/
theorem Run.issued_le_countP {records : List (LineRecord H C)} (run : Run m records m') :
    m'.issued ≤ m.issued + (records.map LineRecord.request).countP LineRequest.isInstall := by
  induction run with
  | nil => exact Nat.le_refl _
  | @cons m m' m'' record records step rest ih =>
    rw [List.map_cons, List.countP_cons]
    cases step with
    | install =>
      refine Nat.le_trans ih (Nat.le_of_eq ?_)
      rw [Nat.add_comm (List.countP _ _) _, ← Nat.add_assoc]
      rfl
    | _ => exact Nat.le_trans ih (Nat.add_le_add_left (Nat.le_add_right _ _) _)

/-- **One request keeps the map true to the past.** -/
theorem Remembers.step {record : LineRecord H C} (h : m.Remembers past) (step : Step m record m')
    (hn : m'.issued < UInt64.size) : m'.Remembers (past ++ [record]) := by
  cases step with
  | @install irq handler cpu =>
    -- Nothing that was removed before had the new identity, so that the new handler stands.
    have hfresh := h.identity_notMem hn
    refine ⟨?_, ?_, ?_⟩
    · rw [standing_append_install (e := ⟨identity m.issued, cpu, handler⟩) rfl rfl
        (fun hmem => hfresh (h.removed _ hmem)), ← h.chain]
      rfl
    · rw [installs_append, List.map_append, h.issued]
      exact (congrArg (List.map identity) List.range_succ).trans List.map_append |>.symm
    · rw [removals_append, installs_append, List.map_append]
      intro p hp
      rcases List.mem_append.mp hp with hp | hp
      · exact List.mem_append_left _ (h.removed p hp)
      · exact absurd hp List.not_mem_nil
  | @remove irq before after found hchain =>
    have hfound : found ∈ m.chain irq := hchain ▸ List.mem_append_right _ List.mem_cons_self
    -- Removing an identity and removing one entry are the same, because no identity stands twice.
    have hrest : (m.chain irq).filter (fun e => e.id ≠ found.id) = before ++ after := by
      rw [hchain]
      exact filter_id_ne (hchain ▸ h.nodup_chain hn irq)
    refine ⟨?_, ?_, ?_⟩
    · rw [standing_append_removal rfl rfl, ← h.chain, hrest]
      rfl
    · rw [installs_append, List.map_append, h.issued]
      exact List.append_nil _
    · rw [removals_append, installs_append]
      intro p hp
      rw [List.map_append]
      refine List.mem_append_left _ ?_
      rcases List.mem_append.mp hp with hp | hp
      · exact h.removed p hp
      · rw [List.mem_singleton.mp hp]
        exact List.mem_map.mpr ⟨_, mem_installs_of_standing (h.chain ▸ hfound), rfl⟩
  | _ => exact h.append_of_nil rfl rfl

/-- **The map of a whole run can be read off its records**, if the identities fit. -/
theorem Run.remembers {records : List (LineRecord H C)} (run : Run m records m')
    (h : m.Remembers past) (hn : m'.issued < UInt64.size) : m'.Remembers (past ++ records) := by
  induction run generalizing past with
  | nil => rwa [List.append_nil]
  | @cons m m' m'' record records step rest ih =>
    have := ih (h.step step (Nat.lt_of_le_of_lt rest.issued_le hn)) hn
    rwa [List.append_assoc] at this

end LineMap

end Interrupts
