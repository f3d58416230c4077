import Interrupts.Proofs.Processor.Calls
import Interrupts.Proofs.Processor.Parking
import Mathlib.Data.List.Chain
import Mathlib.Data.List.Nodup
import Mathlib.Data.List.TakeWhile

/-!
# Processors that are reset while they run

The INIT that parks a processor is meant for one that never answered. Bring-up looks at the flag
after a STARTUP that was granted, so that it gives up only when the last look sees the flag down. A
STARTUP that is refused, however, ends the attempts without a look. A processor that runs by then,
woken late by the STARTUP before, by the very one that was reported as refused, or on its own, is
reset all the same and recorded as abandoned, while its flag stays up.

This module says that nothing else leads to such a reset: processors that are online are spared
exactly in the runs in which no STARTUP is refused to one of them. It follows from the grammar of
the calls, since no flag changes between two calls.
-/

namespace Interrupts

/-! ## Flags between calls -/

section Flags

variable {cfg : BringUpConfig} {t t' : ProcessorTable} {ms : List ApMove}

/-- Every move of a sweep is lawful, with no processor singled out. -/
theorem Sweep.lawful {left index started abandoned : Nat}
    (h : Sweep cfg left index t ms started abandoned t') : ∀ m ∈ ms, m.Lawful fun _ => True := by
  refine h.byWord (P := fun _ _ _ ms _ => ∀ m ∈ ms, m.Lawful fun _ => True) ?_ (fun ih => ih) ?_
  · exact fun _ _ _ hm => absurd hm List.not_mem_nil
  · intro _ _ _ _ _ _ _ _ _ _ _ _ _ hword _ ih
    exact List.forall_mem_append.mpr
      ⟨fun m hm => (hword.lawful m hm).mono fun _ _ => trivial, ih⟩

/-- Every move of a course is lawful, with no processor singled out. -/
theorem Course.lawful {outcome : BringUp} (h : Course cfg t ms outcome t') :
    ∀ m ∈ ms, m.Lawful fun _ => True := by
  cases h with
  | alone _ reports => exact reports.lawful (by simp)
  | swept _ sweep reports =>
    exact List.forall_mem_append.mpr ⟨sweep.lawful, reports.lawful (by simp)⟩

/-- **No flag changes between two calls.** -/
def FlagsLast (xs : List ApStep) : Prop :=
  xs.IsChain fun x y => ∀ i, y.before.isStarted i = x.after.isStarted i

/-- Bring-up stores states and logs lines between two calls, and neither changes a flag. -/
theorem Linked.flagsLast {P : Nat → Prop} (h : Linked t ms t') (hlawful : ∀ m ∈ ms, m.Lawful P)
    (hlines : ∀ m ∈ ms, m.act = .line → m.after = m.before) :
    FlagsLast (steps ms)
      ∧ ∀ x ∈ (steps ms).head?, ∀ i, x.before.isStarted i = t.isStarted i := by
  induction ms generalizing t with
  | nil => exact ⟨.nil, nofun⟩
  | cons m ms ih =>
    obtain ⟨rfl, hrest⟩ := h
    obtain ⟨hhead, htail⟩ := List.forall_mem_cons.mp hlawful
    obtain ⟨hline, hlines⟩ := List.forall_mem_cons.mp hlines
    obtain ⟨hlast, hfirst⟩ := ih hrest htail hlines
    obtain ⟨act, before, after⟩ := m
    -- flags rise in calls alone: a store keeps them and a log line changes nothing
    cases act with
    | call c =>
      refine ⟨List.isChain_cons.mpr ⟨hfirst, hlast⟩, fun x hx => ?_⟩
      cases Option.some.inj hx
      exact fun _ => rfl
    | store => exact ⟨hlast, fun x hx i => (hfirst x hx i).trans (hhead.isStarted rfl i)⟩
    | line => exact ⟨hlast, fun x hx i => by rw [hfirst x hx i, hline rfl]⟩

end Flags

/-! ## Parking INITs and refused STARTUPs -/

/-- What a step does, without the tables. -/
@[simp] def ApStep.act (x : ApStep) : ApAct :=
  .call x.call

/-- An INIT for this processor, granted or refused. -/
@[simp] def ApCall.resets (id : UInt32) : ApCall → Bool
  | .init id' _ => id' == id
  | _ => false

/-- A STARTUP for this processor that was refused. -/
@[simp] def ApCall.isRefusal (id : UInt32) : ApCall → Bool
  | .startup id' _ (.error _) => id' == id
  | _ => false

/-- **The INITs that are to park a processor**: those after its first STARTUP. -/
def parkings (id : UInt32) (xs : List ApStep) : List ApStep :=
  (xs.dropWhile fun x => !x.act.isStartup id).filter (·.call.resets id)

/-- The refused STARTUPs of a processor. -/
def refusals (id : UInt32) (xs : List ApStep) : List ApStep :=
  xs.filter (·.call.isRefusal id)

section Parkings

variable {id : UInt32} {xs ys : List ApStep}

/-- No INIT before the first STARTUP is to park the processor. -/
theorem parkings_append_of_not_startup (h : ∀ x ∈ xs, x.act.isStartup id = false) :
    parkings id (xs ++ ys) = parkings id ys := by
  unfold parkings
  rw [List.dropWhile_append_of_pos fun x hx => by rw [h x hx]; rfl]

/-- All INITs after it are. -/
theorem parkings_append_of_startup {x : ApStep} (hx : x ∈ xs)
    (hstartup : x.act.isStartup id = true) :
    parkings id (xs ++ ys) = parkings id xs ++ ys.filter (·.call.resets id) := by
  unfold parkings
  rw [List.dropWhile_append, if_neg, List.filter_append]
  rw [List.isEmpty_iff]
  intro hnone
  have hall := List.dropWhile_eq_nil_iff.mp hnone x hx
  rw [hstartup] at hall
  exact nomatch hall

theorem parkings_eq_nil (h : ∀ x ∈ xs, x.call.resets id = false) : parkings id xs = [] :=
  List.filter_eq_nil_iff.mpr fun x hx =>
    Bool.eq_false_iff.mp (h x ((List.dropWhile_sublist _).mem hx))

theorem refusals_eq_nil (h : ∀ x ∈ xs, x.call.isRefusal id = false) : refusals id xs = [] :=
  List.filter_eq_nil_iff.mpr fun x hx => Bool.eq_false_iff.mp (h x hx)

theorem refusals_append : refusals id (xs ++ ys) = refusals id xs ++ refusals id ys :=
  List.filter_append _ _

/-- Whom a step is for, if it is an INIT or a STARTUP. -/
theorem ApStep.not_addressed {x : ApStep} (h : x.act.addressee? ≠ some id) :
    x.act.isStartup id = false ∧ x.call.resets id = false ∧ x.call.isRefusal id = false := by
  obtain ⟨c, _, _⟩ := x
  cases c with
  | prepare _ _ _ => exact ⟨rfl, rfl, rfl⟩
  | init id' _ =>
    have hne : (id' == id) = false := beq_eq_false_iff_ne.mpr fun heq => h (congrArg some heq)
    simp [hne]
  | startup id' _ answer =>
    have hne : (id' == id) = false := beq_eq_false_iff_ne.mpr fun heq => h (congrArg some heq)
    cases answer <;> simp [hne]
  | delay _ => exact ⟨rfl, rfl, rfl⟩
  | relax => exact ⟨rfl, rfl, rfl⟩

/-- Steps for others come before: they do not matter. -/
theorem parkings_append_of_not_addressed_left (h : ∀ x ∈ xs, x.act.addressee? ≠ some id) :
    parkings id (xs ++ ys) = parkings id ys :=
  parkings_append_of_not_startup fun x hx => (ApStep.not_addressed (h x hx)).1

/-- Steps for others come after: they do not matter either. -/
theorem parkings_append_of_not_addressed_right (h : ∀ y ∈ ys, y.act.addressee? ≠ some id) :
    parkings id (xs ++ ys) = parkings id xs := by
  have hys : ys.filter (·.call.resets id) = [] := List.filter_eq_nil_iff.mpr fun y hy =>
    Bool.eq_false_iff.mp (ApStep.not_addressed (h y hy)).2.1
  -- the parkings are the INITs after the first STARTUP, which may or may not be in the first part
  by_cases hxs : ∀ x ∈ xs, x.act.isStartup id = false
  · rw [parkings_append_of_not_startup hxs, ← List.append_nil xs,
      parkings_append_of_not_startup hxs, parkings_eq_nil fun y hy =>
        (ApStep.not_addressed (h y hy)).2.1]
    rfl
  · simp only [not_forall, Bool.not_eq_false] at hxs
    obtain ⟨x, hx, hstartup⟩ := hxs
    rw [parkings_append_of_startup hx hstartup, hys, List.append_nil]

theorem refusals_eq_nil_of_not_addressed (h : ∀ x ∈ xs, x.act.addressee? ≠ some id) :
    refusals id xs = [] :=
  refusals_eq_nil fun x hx => (ApStep.not_addressed (h x hx)).2.2

end Parkings

/-! ## One processor -/

section OneProcessor

variable {cfg : BringUpConfig} {i : Nat} {id : UInt32} {w : List ApStep}

/-- What holds of all calls holds of all steps. -/
theorem forall_steps {P : ApCall → Prop} {cs : List ApCall} (h : w.map ApStep.call = cs)
    (hcs : ∀ c ∈ cs, P c) : ∀ x ∈ w, P x.call :=
  List.forall_mem_map.mp (h ▸ hcs)

namespace Attempt

variable {relaxes : Nat} {seen : Bool}

/-- An attempt has no INIT and no refused STARTUP. -/
theorem no_reset (h : Attempt cfg i id relaxes seen w) :
    ∀ x ∈ w, x.call.resets id = false ∧ x.call.isRefusal id = false :=
  forall_steps (P := fun c => c.resets id = false ∧ c.isRefusal id = false) h.calls
    (by simp +contextual [List.mem_replicate])

/-- An attempt begins with a STARTUP. -/
theorem exists_startup (h : Attempt cfg i id relaxes seen w) :
    ∃ x ∈ w, x.act.isStartup id = true := by
  obtain ⟨x, hx, hcall⟩ := List.mem_map.mp (h.calls ▸ List.mem_cons_self)
  exact ⟨x, hx, by simp [hcall]⟩

/-- The last step of an attempt leaves the flag as the last look sees it. -/
theorem after_getLast? (h : Attempt cfg i id relaxes seen w) :
    ∀ x ∈ w.getLast?, x.after.isStarted i = seen := by
  intro x hx
  have hlooks := congrArg List.getLast? h.looks
  rw [Interrupts.looks, List.getLast?_map, List.getLast?_append] at hlooks
  cases w with
  | nil => cases hx
  | cons y ys =>
    cases ys with
    | nil => cases hlooks
    | cons z zs =>
      rw [List.getLast?_cons_cons] at hx
      rw [show (y :: z :: zs).tail.getLast? = some x from hx] at hlooks
      exact Option.some.inj hlooks

end Attempt

/-- After STARTUPs that went unanswered the flag is down. -/
theorem after_getLast?_flatten {relaxes : Nat} {silent : List (List ApStep)}
    (h : ∀ w ∈ silent, Attempt cfg i id relaxes false w) :
    ∀ x ∈ silent.flatten.getLast?, x.after.isStarted i = false := by
  intro x hx
  rw [List.getLast?_flatten] at hx
  obtain ⟨w, hw, hlast⟩ := List.exists_of_findSome?_eq_some hx
  exact (h w (List.mem_reverse.mp hw)).after_getLast? x hlast

/-- The first INIT of a processor comes before its STARTUPs. -/
theorem not_startup_of_resets {reset : List ApStep}
    (h : reset.map ApStep.call
      = [.prepare i id (.ok ()), .init id (.ok ()), .delay cfg.initDelay]) :
    ∀ x ∈ reset, x.act.isStartup id = false ∧ x.call.isRefusal id = false :=
  forall_steps (P := fun c => (ApAct.call c).isStartup id = false ∧ c.isRefusal id = false) h
    (by simp)

/-- Silent attempts contain no INIT and no refused STARTUP. -/
theorem no_reset_flatten {relaxes : Nat} {silent : List (List ApStep)}
    (h : ∀ w ∈ silent, Attempt cfg i id relaxes false w) :
    ∀ x ∈ silent.flatten, x.call.resets id = false ∧ x.call.isRefusal id = false :=
  List.forall_mem_flatten.mpr fun w hw => (h w hw).no_reset

/-- Of the steps that lead to a parking INIT only that one counts. -/
theorem parkings_of_parked {reset tries : List ApStep} {parking : ApStep}
    {answer : Except BringUpError Unit} (hreset : ∀ x ∈ reset, x.act.isStartup id = false)
    (htries : ∀ x ∈ tries, x.call.resets id = false)
    (hstartup : ∃ x ∈ tries, x.act.isStartup id = true) (hparks : parking.call = .init id answer) :
    parkings id (reset ++ (tries ++ [parking])) = [parking] := by
  obtain ⟨x, hx, hpointed⟩ := hstartup
  rw [parkings_append_of_not_startup hreset, parkings_append_of_startup hx hpointed,
    parkings_eq_nil htries, List.nil_append]
  exact List.filter_cons_of_pos (by simp [hparks])

/-- **The parking INIT of a word** is its only one after a STARTUP. It follows a STARTUP that was
refused, or a last look that saw the flag down. -/
theorem CallWord.parkings_eq {online : Bool} (h : CallWord cfg i id online w) :
    (parkings id w = [] ∧ refusals id w = [])
      ∨ online = false ∧ ∃ earlier x parking, w = earlier ++ [x, parking]
        ∧ parkings id w = [parking]
        ∧ (refusals id w = [x] ∨ refusals id w = [] ∧ x.after.isStarted i = false) := by
  cases h with
  | unprepared calls =>
    exact .inl ⟨parkings_eq_nil (forall_steps (P := fun c => c.resets id = false) calls (by simp)),
      refusals_eq_nil (forall_steps (P := fun c => c.isRefusal id = false) calls (by simp))⟩
  | unreset calls =>
    refine .inl ⟨?_, refusals_eq_nil
      (forall_steps (P := fun c => c.isRefusal id = false) calls (by simp))⟩
    rw [← List.append_nil w, parkings_append_of_not_startup
      (forall_steps (P := fun c => (ApAct.call c).isStartup id = false) calls (by simp))]
    rfl
  | @online reset last silent resets silences ends =>
    obtain ⟨relaxes, attempt⟩ : ∃ relaxes, Attempt cfg i id relaxes true last := by
      generalize silent.length = n at ends
      cases ends with
      | answered _ _ attempt => exact ⟨_, attempt⟩
    have htries := List.forall_mem_append.mpr ⟨no_reset_flatten silences, attempt.no_reset⟩
    refine .inl ⟨?_, ?_⟩
    · rw [parkings_append_of_not_startup fun x hx => (not_startup_of_resets resets x hx).1]
      exact parkings_eq_nil fun x hx => (htries x hx).1
    · rw [refusals_append, refusals_eq_nil fun x hx => (not_startup_of_resets resets x hx).2]
      exact refusals_eq_nil fun x hx => (htries x hx).2
  | @parked reset last silent parking answer resets silences ends parks =>
    have hreset := not_startup_of_resets resets
    have hsilent := no_reset_flatten silences
    have hrefusals : refusals id (reset ++ (silent.flatten ++ (last ++ [parking])))
        = refusals id last := by
      simp only [refusals_append]
      rw [refusals_eq_nil fun x hx => (hreset x hx).2, refusals_eq_nil fun x hx => (hsilent x hx).2,
        List.nil_append, List.nil_append]
      exact (congrArg (_ ++ ·) (refusals_eq_nil (by simp [parks]))).trans (List.append_nil _)
    refine .inr ⟨rfl, ?_⟩
    rw [hrefusals, ← List.append_assoc silent.flatten]
    generalize hlength : silent.length = n at ends
    cases ends with
    | refused more calls =>
      obtain ⟨x, rfl, hx⟩ := List.map_eq_singleton_iff.mp calls
      refine ⟨reset ++ silent.flatten, x, parking, by simp, ?_, .inl ?_⟩
      · refine parkings_of_parked (fun x hx => (hreset x hx).1) ?_ ⟨x, by simp, by simp [hx]⟩ parks
        exact List.forall_mem_append.mpr ⟨fun x hx => (hsilent x hx).1, by simp [hx]⟩
      · exact List.filter_cons_of_pos (by simp [hx])
    | exhausted =>
      -- At least one STARTUP is sent before there is none left.
      obtain ⟨w, hw⟩ : ∃ w, w ∈ silent := by
        refine List.exists_mem_of_length_pos ?_
        rw [hlength]
        split <;> omega
      obtain ⟨y, hy, hstartup⟩ := (silences w hw).exists_startup
      have hmem : y ∈ silent.flatten := List.mem_flatten.mpr ⟨w, hw, hy⟩
      obtain ⟨earlier, x, hearlier⟩ : ∃ earlier x, silent.flatten = earlier ++ [x] :=
        ⟨_, _, (List.dropLast_append_getLast (List.ne_nil_of_mem hmem)).symm⟩
      have hx : x ∈ silent.flatten.getLast? := List.getLast?_eq_some_iff.mpr ⟨earlier, hearlier⟩
      refine ⟨reset ++ earlier, x, parking, by simp [hearlier], ?_,
        .inr ⟨rfl, after_getLast?_flatten silences x hx⟩⟩
      rw [List.append_nil]
      exact parkings_of_parked (fun x hx => (hreset x hx).1) (fun x hx => (hsilent x hx).1)
        ⟨y, hmem, hstartup⟩ parks

/-- **A processor is reset while its flag is up** exactly when it is refused a STARTUP then. -/
theorem CallWord.exists_parking_iff {online : Bool} (h : CallWord cfg i id online w)
    (hlast : FlagsLast w) :
    (∃ x ∈ parkings id w, x.before.isStarted i = true)
      ↔ ∃ x ∈ refusals id w, x.after.isStarted i = true := by
  obtain ⟨hparkings, hrefusals⟩ | ⟨-, earlier, x, parking, rfl, hparkings, hbefore⟩ := h.parkings_eq
  · simp [hparkings, hrefusals]
  · -- No flag changes between the step before the parking INIT and the INIT.
    have hsame : parking.before.isStarted i = x.after.isStarted i :=
      (List.isChain_cons_cons.mp hlast.right_of_append).1 i
    obtain hrefusals | ⟨hrefusals, hdown⟩ := hbefore
    · simp [hparkings, hrefusals, hsame]
    · simp [hparkings, hrefusals, hsame, hdown]

/-- **The steps address one processor only**, those that address any. -/
def Addresses (id : UInt32) (w : List ApStep) : Prop :=
  ∀ x ∈ w, ∀ id', x.act.addressee? = some id' → id' = id

theorem addresses_of_calls {cs : List ApCall} (h : w.map ApStep.call = cs)
    (hcs : ∀ c ∈ cs, ∀ id', (ApAct.call c).addressee? = some id' → id' = id) : Addresses id w :=
  forall_steps (P := fun c => ∀ id', (ApAct.call c).addressee? = some id' → id' = id) h hcs

theorem Addresses.append {w' : List ApStep} (h : Addresses id w) (h' : Addresses id w') :
    Addresses id (w ++ w') :=
  List.forall_mem_append.mpr ⟨h, h'⟩

theorem Attempt.addresses {relaxes : Nat} {seen : Bool} (h : Attempt cfg i id relaxes seen w) :
    Addresses id w :=
  addresses_of_calls h.calls (by simp +contextual [List.mem_replicate])

theorem addresses_flatten {relaxes : Nat} {silent : List (List ApStep)}
    (h : ∀ w ∈ silent, Attempt cfg i id relaxes false w) : Addresses id silent.flatten :=
  List.forall_mem_flatten.mpr fun w hw => (h w hw).addresses

/-- The last attempt addresses its own processor only. -/
theorem Ending.addresses {most n : Nat} {online : Bool} (h : Ending cfg i id most n online w) :
    Addresses id w := by
  cases h with
  | answered _ _ attempt => exact attempt.addresses
  | refused _ calls => exact addresses_of_calls calls (by simp)
  | exhausted => exact fun _ hx => absurd hx List.not_mem_nil

/-- **The calls for a processor** address nobody else. -/
theorem CallWord.addresses {online : Bool} (h : CallWord cfg i id online w) : Addresses id w := by
  cases h with
  | unprepared calls => exact addresses_of_calls calls (by simp)
  | unreset calls => exact addresses_of_calls calls (by simp)
  | online resets silences ends =>
    exact (addresses_of_calls resets (by simp)).append
      ((addresses_flatten silences).append ends.addresses)
  | @parked _ _ _ parking _ resets silences ends parks =>
    have hparking : Addresses id [parking] :=
      addresses_of_calls (congrArg (· :: []) parks) (by simp)
    exact (addresses_of_calls resets (by simp)).append
      ((addresses_flatten silences).append (ends.addresses.append hparking))

end OneProcessor

/-! ## All processors -/

section AllProcessors

variable {cfg : BringUpConfig} {i : Nat} {id : UInt32} {t t' : ProcessorTable} {is : List Nat}
  {words : List (List ApStep)}

/-- The words at some positions address the processors there. -/
theorem addressee_flatten (h : List.Forall₂ (IsWordAt cfg t t') is words) :
    ∀ x ∈ words.flatten, x.act.addressee? = some id → ∃ j ∈ is, t.ids[j]? = some id := by
  induction h with
  | nil => exact nofun
  | @cons j w is words hword _ ih =>
    obtain ⟨id', online, hid', hword, -⟩ := hword
    intro x hx haddressed
    rcases List.mem_append.mp hx with hx | hx
    · obtain rfl := hword.calls.addresses x hx id haddressed
      exact ⟨j, List.mem_cons_self, hid'⟩
    · obtain ⟨j', hj', hlisted⟩ := ih x hx haddressed
      exact ⟨j', List.mem_cons_of_mem _ hj', hlisted⟩

/-- **A processor's own word says all about it.** -/
theorem own_word (hids : t.ids.Nodup) (hi : t.ids[i]? = some id) (his : is.Nodup)
    (h : List.Forall₂ (IsWordAt cfg t t') is words) :
    (parkings id words.flatten = [] ∧ refusals id words.flatten = [])
      ∨ i ∈ is ∧ ∃ w ∈ words, ∃ online, CallWord cfg i id online w
        ∧ t'.state? i = some (settledState online)
        ∧ parkings id words.flatten = parkings id w
        ∧ refusals id words.flatten = refusals id w := by
  induction h with
  | nil => exact .inl ⟨rfl, rfl⟩
  | @cons j w is words hword hrest ih =>
    obtain ⟨id', online, hid', hword, hend⟩ := hword
    obtain ⟨hj, his⟩ := List.nodup_cons.mp his
    rw [List.flatten_cons, refusals_append]
    by_cases hij : j = i
    · -- This is the processor's own word, and none of the others addresses it.
      subst hij
      obtain rfl := Option.some.inj (hid'.symm.trans hi)
      have hothers : ∀ x ∈ words.flatten, x.act.addressee? ≠ some id' := by
        intro x hx haddressed
        obtain ⟨j', hj', hlisted⟩ := addressee_flatten hrest x hx haddressed
        exact hj (ProcessorTable.index_eq hids hid' hlisted ▸ hj')
      rw [parkings_append_of_not_addressed_right hothers,
        refusals_eq_nil_of_not_addressed hothers, List.append_nil]
      exact .inr ⟨List.mem_cons_self, w, List.mem_cons_self, online, hword.calls, hend, rfl, rfl⟩
    · -- This is the word of another processor.
      have hother : ∀ x ∈ w, x.act.addressee? ≠ some id := by
        intro x hx haddressed
        obtain rfl := hword.calls.addresses x hx id haddressed
        exact hij (ProcessorTable.index_eq hids hid' hi)
      rw [parkings_append_of_not_addressed_left hother, refusals_eq_nil_of_not_addressed hother,
        List.nil_append]
      refine (ih his).imp_right ?_
      rintro ⟨hi', w', hw', hown⟩
      exact ⟨List.mem_cons_of_mem _ hi', w', List.mem_cons_of_mem _ hw', hown⟩

end AllProcessors

/-! ## The summary -/

/-- A stricter condition that some element misses is met by fewer elements. -/
theorem countP_lt_countP {α : Type} {p q : α → Bool} {as : List α} {a : α} (ha : a ∈ as)
    (hle : ∀ x ∈ as, q x = true → p x = true) (hp : p a = true) (hq : ¬q a = true) :
    as.countP q < as.countP p := by
  obtain ⟨bs, cs, rfl⟩ := List.append_of_mem ha
  rw [List.countP_append, List.countP_append, List.countP_cons_of_pos hp,
    List.countP_cons_of_neg hq]
  have hbs := List.countP_mono_left fun x hx => hle x (List.mem_append_left _ hx)
  have hcs := List.countP_mono_left fun x hx =>
    hle x (List.mem_append_right _ (List.mem_cons_of_mem _ hx))
  omega

namespace ProcessorTable

/-- The flags that are up, counted by position. -/
theorem startedCount_eq_countP (t : ProcessorTable) :
    t.startedCount = (List.range t.size).countP t.isStarted := by
  -- counting flags over the processors is counting them over the places
  have hflags : t.cpus.map Processor.started = (List.range t.size).map t.isStarted := by
    refine List.ext_getElem? fun j => ?_
    rw [List.getElem?_map, List.getElem?_map]
    by_cases hj : j < t.size
    · rw [List.getElem?_range hj, List.getElem?_eq_getElem hj]
      simp [isStarted, get?, List.getElem?_eq_getElem hj]
    · rw [List.getElem?_eq_none (Nat.le_of_not_lt hj),
        List.getElem?_eq_none (by simpa using Nat.le_of_not_lt hj)]
      rfl
  calc t.startedCount = (t.cpus.map Processor.started).countP id := by rw [List.countP_map]; rfl
    _ = ((List.range t.size).map t.isStarted).countP id := by rw [hflags]
    _ = (List.range t.size).countP t.isStarted := by rw [List.countP_map]; rfl

/-- The boot processor runs. -/
theorem isStarted_zero_discover (boot : UInt32) (others : List UInt32) :
    (({} : ProcessorTable).discover boot others).2.isStarted 0 = true := by
  refine registerAll_keeps (P := fun t => t.isStarted 0 = true) (fun t id _ ht => ?_) rfl others
  obtain ⟨p, hp, hstarted⟩ := isStarted_eq_true.mp ht
  refine isStarted_eq_true.mpr ⟨p, ?_, hstarted⟩
  show (t.cpus ++ _)[0]? = some p
  rw [List.getElem?_append_left (List.getElem?_eq_some_iff.mp hp).1]
  exact hp

end ProcessorTable

section Summary

variable {cfg : BringUpConfig} {i : Nat} {t t' : ProcessorTable} {ms : List ApMove}

/-- A flag that is up after a move stays up. -/
theorem Linked.isStarted {P : Nat → Prop} (h : Linked t ms t') (hlawful : ∀ m ∈ ms, m.Lawful P)
    (i : Nat) : (t.isStarted i = true → t'.isStarted i = true)
      ∧ ∀ m ∈ ms, m.after.isStarted i = true → t'.isStarted i = true := by
  induction ms generalizing t with
  | nil => exact ⟨fun ht => (show t' = t from h) ▸ ht, nofun⟩
  | cons m ms ih =>
    obtain ⟨rfl, hrest⟩ := h
    obtain ⟨hhead, htail⟩ := List.forall_mem_cons.mp hlawful
    obtain ⟨hfirst, hlater⟩ := ih hrest htail
    exact ⟨fun hbefore => hfirst (hhead.keepsUp hbefore),
      List.forall_mem_cons.mpr ⟨hfirst, hlater⟩⟩

/-- **The summary misses a processor** that is recorded as abandoned with its flag up. -/
theorem Course.summary_lt {outcome : BringUp} (h : Course cfg t ms outcome t')
    (hboot : t.isStarted 0 = true) (hi : i ∈ t.pending) (hstate : t'.state? i = some .abandoned)
    (hflag : t'.isStarted i = true) :
    ∃ summary, outcome = .completed summary ∧ summary.started + 1 < t'.startedCount := by
  obtain ⟨htouches, hsettled, hcounts⟩ := h.settles
  obtain ⟨hrange, hdiscovered⟩ := List.mem_filter.mp hi
  have hsize : t'.size = t.size := by
    have hlength := congrArg List.length htouches.ids
    simpa [ProcessorTable.ids, ProcessorTable.size] using hlength
  have hmany : 2 ≤ t.size := by
    have := List.mem_range'_1.mp hrange
    omega
  refine ⟨_, hcounts hmany, ?_⟩
  have hlt : settledCount t t' (t.size - 1) 1 .started
      < (List.range' 1 (t.size - 1)).countP t'.isStarted := by
    refine countP_lt_countP hrange (fun j hj hq => ?_) hflag (by simp [hstate])
    -- A processor that bring-up records as started has raised its flag.
    obtain ⟨hpending, hstarted⟩ := of_decide_eq_true hq
    rcases hsettled j ⟨(List.mem_range'_1.mp hj).1, hpending⟩ with ⟨-, hup⟩ | habandoned
    · exact hup
    · exact nomatch hstarted.symm.trans habandoned
  have hpositions : List.range t.size = 0 :: List.range' 1 (t.size - 1) := by
    obtain ⟨n, hn⟩ := Nat.exists_eq_add_of_lt hmany
    rw [hn, List.range_eq_range']
    rfl
  rw [ProcessorTable.startedCount_eq_countP, hsize, hpositions,
    List.countP_cons_of_pos (htouches.isStarted 0 hboot)]
  exact Nat.succ_lt_succ hlt

end Summary

/-! ## Sparing processors that are online -/

namespace ApScene

variable {W : Type}

/-- **Processors that are online are spared**: whenever an INIT is to park a processor, its flag is
down. -/
def SparesOnline (s : ApScene W) : Prop :=
  ∀ i id, s.table.ids[i]? = some id → ∀ x ∈ parkings id s.steps, x.before.isStarted i = false

/-- **A STARTUP is refused to a processor that is online**: the flag is up when the refusal comes. -/
def RefusesOnline (s : ApScene W) : Prop :=
  ∃ i id, s.table.ids[i]? = some id ∧ ∃ x ∈ refusals id s.steps, x.after.isStarted i = true

end ApScene

section Run

variable {W : Type} (env : ApEnvironment W) (cfg : BringUpConfig) (w : W) {t : ProcessorTable}

/-- **One processor in a run**: it is reset while its flag is up exactly when it is refused a
STARTUP then, and in that case it is recorded as abandoned. -/
theorem bringUp_exists_parking_iff (ht : t.Quiet) (hids : t.ids.Nodup) {i : Nat} {id : UInt32}
    (hi : t.ids[i]? = some id) :
    let s := (env.bringUp cfg w t).2
    ((∃ x ∈ parkings id s.steps, x.before.isStarted i = true)
        ↔ ∃ x ∈ refusals id s.steps, x.after.isStarted i = true)
      ∧ (parkings id s.steps ≠ [] → i ∈ t.pending ∧ s.table.state? i = some .abandoned) := by
  obtain ⟨hcourse, hlines⟩ := env.bringUp_course cfg w t
  -- the steps are one word after another, and all that concerns this processor is in its own
  obtain ⟨words, hsteps, hwords⟩ := hcourse.inWords ht
  generalize (env.bringUp cfg w t).2 = s at hcourse hlines hsteps hwords ⊢
  have hlast : FlagsLast (steps s.journal) :=
    (hcourse.settles.1.linked.flagsLast hcourse.lawful hlines).1
  have hnodup : t.pending.Nodup := (List.nodup_range' 1 Nat.zero_lt_one).filter _
  dsimp only [ApScene.steps]
  rw [hsteps] at hlast ⊢
  obtain ⟨hparkings, hrefusals⟩ | ⟨hpending, w, hw, online, hword, hend, hparkings, hrefusals⟩ :=
    own_word hids hi hnodup hwords
  · simp [hparkings, hrefusals]
  · have hown : FlagsLast w := by
      obtain ⟨earlier, later, rfl⟩ := List.append_of_mem hw
      rw [List.flatten_append, List.flatten_cons] at hlast
      exact hlast.right_of_append.left_of_append
    rw [hparkings, hrefusals]
    refine ⟨hword.exists_parking_iff hown, fun hsome => ?_⟩
    obtain ⟨hnone, -⟩ | ⟨rfl, -⟩ := hword.parkings_eq
    · exact absurd hnone hsome
    · exact ⟨hpending, hend⟩

/-- **Processors that are online are spared exactly when no STARTUP is refused to one of them.**
When one is, it is recorded as abandoned all the same, and the summary counts fewer processors than
have raised their flags. -/
theorem sparesOnline_iff (boot : UInt32) (others : List UInt32) :
    let t := (({} : ProcessorTable).discover boot others).2
    let r := env.bringUp cfg w t
    (r.2.SparesOnline ↔ ¬r.2.RefusesOnline)
      ∧ (∀ i id, r.2.table.ids[i]? = some id → parkings id r.2.steps ≠ [] →
          r.2.table.state? i = some .abandoned)
      ∧ (r.2.RefusesOnline →
          ∃ summary, r.1 = .completed summary ∧ summary.started + 1 < r.2.table.startedCount) := by
  intro t r
  have hempty : ({} : ProcessorTable).Quiet := ProcessorTable.ensureQuiescent_eq_ok.mp rfl
  have hquiet : t.Quiet := hempty.discover boot others
  have hids : t.ids.Nodup := ProcessorTable.nodup_ids_discover (t := {}) List.nodup_nil boot others
  obtain ⟨hcourse, -⟩ := env.bringUp_course cfg w t
  have hsame : r.2.table.ids = t.ids := hcourse.settles.1.ids
  have hone := fun i id (hi : r.2.table.ids[i]? = some id) =>
    bringUp_exists_parking_iff env cfg w hquiet hids (hsame ▸ hi)
  refine ⟨⟨?_, fun hnone i id hi x hx => ?_⟩, fun i id hi hsome => ((hone i id hi).2 hsome).2, ?_⟩
  · rintro hspares ⟨i, id, hi, hrefused⟩
    obtain ⟨x, hx, hup⟩ := (hone i id hi).1.mpr hrefused
    exact Bool.false_ne_true ((hspares i id hi x hx).symm.trans hup)
  · refine Bool.eq_false_iff.mpr fun hup => hnone ⟨i, id, hi, ?_⟩
    exact (hone i id hi).1.mp ⟨x, hx, hup⟩
  · rintro ⟨i, id, hi, x, hx, hup⟩
    obtain ⟨y, hy, -⟩ := (hone i id hi).1.mpr ⟨x, hx, hup⟩
    obtain ⟨hpending, hstate⟩ := (hone i id hi).2 (List.ne_nil_of_mem hy)
    -- the flag never falls again, so the abandoned processor is still counted as started at the end
    obtain ⟨m, hm, -, -, hafter⟩ := mem_steps (List.mem_of_mem_filter hx)
    rw [← hafter] at hup
    exact hcourse.summary_lt (ProcessorTable.isStarted_zero_discover boot others) hpending hstate
      ((hcourse.settles.1.linked.isStarted hcourse.lawful i).2 m hm hup)

end Run

namespace Hasty

/-- Every STARTUP is reported as pending for too long, and yet the processor at position 1 runs: it
raises its flag with the STARTUP itself, or, when it is `early`, while it is given time after its
INIT. -/
def environment (early : Bool) : ApEnvironment Unit where
  prepare _ _ _ w := ⟨.ok (), [], w⟩
  sendInit _ _ w := ⟨.ok (), [], w⟩
  sendStartup id _ _ w := ⟨.error (.ipiTimeout id), if early then [] else [1], w⟩
  delay _ _ w := ⟨(), if early then [1] else [], w⟩
  relax _ w := ⟨(), [], w⟩

/-- The boot processor and one other. -/
def table : ProcessorTable :=
  (({} : ProcessorTable).discover 0 [4]).2

/-- Bring-up with one look for an answer. -/
def run (early : Bool) : BringUp × ApScene Unit :=
  (environment early).bringUp { startupWait := ⟨1⟩ } () table

/-- The INIT that parks the processor finds its flag up, either way. -/
theorem not_spares (early : Bool) : ¬(run early).2.SparesOnline := by
  have hlisted : (run early).2.table.ids[1]? = some 4 := by cases early <;> decide +kernel
  have hup : ¬∀ x ∈ parkings 4 (run early).2.steps, x.before.isStarted 1 = false := by
    cases early <;> decide +kernel
  exact fun hspares => hup (hspares 1 4 hlisted)

end Hasty

open Hasty in
/-- **A processor that is online is reset**, when its STARTUP wakes it and is reported as refused all
the same, and when it came up before. It is recorded as abandoned, and nobody is counted as started
while two flags are up. -/
theorem not_sparesOnline_hasty :
    (¬(run false).2.SparesOnline ∧ (run false).2.table.state? 1 = some .abandoned
        ∧ (run false).1 = .completed { processors := 2, started := 0, abandoned := 1 }
        ∧ (run false).2.table.startedCount = 2)
      ∧ ¬(run true).2.SparesOnline ∧ (run true).2.table.state? 1 = some .abandoned
        ∧ (run true).1 = .completed { processors := 2, started := 0, abandoned := 1 }
        ∧ (run true).2.table.startedCount = 2 :=
  ⟨⟨not_spares false, by decide +kernel, by decide +kernel, by decide +kernel⟩,
    not_spares true, by decide +kernel, by decide +kernel, by decide +kernel⟩

end Interrupts
