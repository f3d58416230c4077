import Interrupts.Proofs.Registry.Deliveries

/-!
# The account that a line keeps

A line counts its deliveries and those among them that nobody claimed, and of the latter it reports
the first one. When a handler is put on the line, or the line is unmasked, the next one is reported
again.

What is left of all that depends on the history of the line only: the handlers that were put on it
and taken off again, the times it was unmasked, and the deliveries that it served. `Changes` says
what one request does to one line, and `run_keepsAccount` what a whole run leaves: the counters and
the number of handlers are those of the history, and an unclaimed delivery is reported just if none
went before it since the line was last put in order.
-/

namespace Interrupts

variable {W H C : Type}

/-! ## Histories -/

/-- **What a request can do to a line.** -/
inductive LineChange where
  /-- A handler was put on it. -/
  | put
  /-- A handler was taken off it. -/
  | taken
  /-- It was unmasked. -/
  | unmasked
  /-- It served a delivery that a handler claimed. -/
  | claimed
  /-- It served a delivery that nobody claimed. -/
  | unclaimed
  deriving DecidableEq, Repr

/-- What a delivery changed, given what became of it. -/
def DispatchOutcome.change? : DispatchOutcome → Option (UInt8 × LineChange)
  | .handled irq => some (irq, .claimed)
  | .unhandled irq => some (irq, .unclaimed)
  | .outOfRange _ | .spurious => none

namespace LineRecord

/-- What became of a delivery, when the request was one. -/
def outcome? (record : LineRecord H C) : Option DispatchOutcome :=
  match record.reply with
  | .dispatched outcome _ => some outcome
  | _ => none

/-- **The line that a request changed**, and how. Requests that were refused, masking, spurious
deliveries and those out of range change no line. -/
def change? (record : LineRecord H C) : Option (UInt8 × LineChange) :=
  match record.request, record.reply with
  | .install irq _ _, .installed (.ok _) => some (irq, .put)
  | .remove irq _, .removed (.ok _) => some (irq, .taken)
  | .unmask _ irq, .unmasked (.ok _) => some (irq, .unmasked)
  | _, .dispatched outcome _ => outcome.change?
  | _, _ => none

/-- Only a delivery counts for a line as claimed or as unclaimed. -/
theorem change?_eq_some_iff {outcome : DispatchOutcome} {p : UInt8 × LineChange}
    (h : outcome.change? = some p) (record : LineRecord H C) :
    record.change? = some p ↔ record.outcome? = some outcome := by
  rcases record with ⟨request, reply, events⟩
  cases outcome <;> cases h <;> cases request <;> cases reply with
  | dispatched outcome f' => cases outcome <;> simp [change?, outcome?, DispatchOutcome.change?]
  | isInstalled answer => simp [change?, outcome?]
  | installed result | removed result | masked result | unmasked result =>
    cases result <;> simp [change?, outcome?]

end LineRecord

/-- The number of deliveries of which this became. -/
def ended (records : List (LineRecord H C)) (outcome : DispatchOutcome) : Nat :=
  records.countP fun record => record.outcome? = some outcome

/-- **The history of a line**, the oldest change first. -/
def history (records : List (LineRecord H C)) (irq : UInt8) : List LineChange :=
  (records.filterMap LineRecord.change?).filterMap fun p => if p.1 = irq then some p.2 else none

/-- **The line was reported**: a delivery was not claimed since a handler was last put on the line
and since the line was last unmasked. -/
def Silenced (changes : List LineChange) : Prop :=
  ∃ before after, changes = before ++ .unclaimed :: after
    ∧ LineChange.put ∉ after ∧ LineChange.unmasked ∉ after

/-- A request that changes no line leaves every history as it was. -/
theorem history_concat_of_none {records : List (LineRecord H C)} {record : LineRecord H C}
    (h : record.change? = none) (irq : UInt8) :
    history (records ++ [record]) irq = history records irq := by
  unfold history
  rw [List.filterMap_append, List.filterMap_cons, h, List.filterMap_nil, List.append_nil]

/-- A request that changes a line appends the change to the history of that line. -/
theorem history_concat_of_some {records : List (LineRecord H C)} {record : LineRecord H C}
    {line : UInt8} {change : LineChange} (h : record.change? = some (line, change)) (irq : UInt8) :
    history (records ++ [record]) irq
      = history records irq ++ if line = irq then [change] else [] := by
  unfold history
  rw [List.filterMap_append, List.filterMap_cons, h, List.filterMap_nil, List.filterMap_append,
    List.filterMap_cons, List.filterMap_nil]
  split <;> simp_all

/-- How often a change stands in the history of a line is how many requests made it. -/
theorem count_history (records : List (LineRecord H C)) (irq : UInt8) (change : LineChange) :
    (history records irq).count change
      = records.countP fun record => record.change? = some (irq, change) := by
  induction records with
  | nil => rfl
  | cons record records ih =>
    unfold history at ih ⊢
    rw [List.countP_cons, ← ih, List.filterMap_cons]
    rcases hchange : record.change? with - | ⟨line, made⟩
    · simp
    · rw [List.filterMap_cons]
      by_cases hline : line = irq
      · simp [hline, List.count_cons]
      · simp [hline]

/-- For the changes that deliveries make, these are the deliveries that ended that way. -/
theorem count_history_eq_ended {outcome : DispatchOutcome} {irq : UInt8} {change : LineChange}
    (h : outcome.change? = some (irq, change)) (records : List (LineRecord H C)) :
    (history records irq).count change = ended records outcome := by
  rw [count_history]
  exact List.countP_congr fun record _ => by
    simpa only [decide_eq_true_eq] using LineRecord.change?_eq_some_iff h record

theorem not_silenced_nil : ¬Silenced [] := by
  rintro ⟨before, after, h, -⟩
  simp at h

/-- **How a line becomes silent**, and how it is put in order again. -/
theorem silenced_concat (changes : List LineChange) (change : LineChange) :
    Silenced (changes ++ [change]) ↔ change = .unclaimed
      ∨ change ≠ .put ∧ change ≠ .unmasked ∧ Silenced changes := by
  constructor
  -- the last change is either the unclaimed one itself or stands after it
  · rintro ⟨before, after, hsplit, hput, hunmasked⟩
    rcases List.eq_nil_or_concat after with rfl | ⟨later, last, rfl⟩
    · exact .inl (List.cons.inj (List.append_inj' hsplit rfl).2).1
    · rw [List.concat_eq_append, ← List.cons_append, ← List.append_assoc] at hsplit
      obtain ⟨rfl, hlast⟩ := List.append_inj' hsplit rfl
      obtain rfl := (List.cons.inj hlast).1
      rw [List.concat_eq_append, List.mem_append, List.mem_singleton, not_or] at hput hunmasked
      exact .inr ⟨Ne.symm hput.2, Ne.symm hunmasked.2, before, later, rfl, hput.1, hunmasked.1⟩
  · rintro (rfl | ⟨hput, hunmasked, before, after, rfl, hput', hunmasked'⟩)
    · exact ⟨changes, [], rfl, List.not_mem_nil, List.not_mem_nil⟩
    · refine ⟨before, after ++ [change], by rw [List.append_assoc]; rfl, ?_, ?_⟩ <;>
        rw [List.mem_append, List.mem_singleton, not_or]
      · exact ⟨hput', Ne.symm hput⟩
      · exact ⟨hunmasked', Ne.symm hunmasked⟩

/-! ## Lines -/

namespace IrqLine

/-- **What a change makes of a line.** -/
inductive Changes : IrqLine H → LineChange → IrqLine H → Prop
  /-- A handler goes to the front of the chain, and the next unclaimed delivery is reported again.
  -/
  | put {l : IrqLine H} (e : HandlerEntry H) :
    Changes l .put { l with chain := e :: l.chain, reported := false }
  /-- A handler goes, wherever it stood. -/
  | taken {l : IrqLine H} {before after : List (HandlerEntry H)} {e : HandlerEntry H}
    (h : l.chain = before ++ e :: after) : Changes l .taken { l with chain := before ++ after }
  /-- The next unclaimed delivery is reported again. -/
  | unmasked {l : IrqLine H} : Changes l .unmasked { l with reported := false }
  /-- A delivery that somebody claimed. -/
  | claimed {l : IrqLine H} : Changes l .claimed { l with count := l.count + 1 }
  /-- A delivery that nobody claimed is counted twice over, and was reported. -/
  | unclaimed {l : IrqLine H} : Changes l .unclaimed
      { l with count := l.count + 1, unhandled := l.unhandled + 1, reported := true }

/-- **A line keeps account of its history.** -/
structure Accounts (l : IrqLine H) (changes : List LineChange) : Prop where
  /-- All deliveries, as far as a word can count. -/
  count : l.count = UInt64.ofNat (changes.count .claimed + changes.count .unclaimed)
  /-- Those that nobody claimed. -/
  unhandled : l.unhandled = UInt64.ofNat (changes.count .unclaimed)
  /-- As many handlers as were put there and not taken away. -/
  handlers : l.chain.length + changes.count .taken = changes.count .put
  /-- A report was given, and nothing since has asked for another. -/
  reported : l.reported = true ↔ Silenced changes

/-- A fresh line accounts for an empty history. -/
theorem accounts_nil : ({} : IrqLine H).Accounts [] where
  count := rfl
  unhandled := rfl
  handlers := rfl
  reported := ⟨fun h => (nomatch h), fun h => (not_silenced_nil h).elim⟩

/-- **Every change is accounted for.** -/
theorem Accounts.step {l l' : IrqLine H} {changes : List LineChange} {change : LineChange}
    (h : l.Accounts changes) (step : Changes l change l') :
    l'.Accounts (changes ++ [change]) := by
  obtain ⟨hcount, hunhandled, hhandlers, hreported⟩ := h
  cases step with
  | put e =>
    refine ⟨by simpa using hcount, by simpa using hunhandled, ?_, ?_⟩
    · simp only [List.length_cons, List.count_append, List.count_singleton, beq_iff_eq,
        reduceCtorEq, if_false, if_true]
      omega
    · simp [silenced_concat]
  -- the handler that is taken stood on the chain, so the chain was longer by one
  | @taken before after e hchain =>
    refine ⟨by simpa using hcount, by simpa using hunhandled, ?_, ?_⟩
    · rw [hchain, List.length_append, List.length_cons] at hhandlers
      simp only [List.length_append, List.count_append, List.count_singleton, beq_iff_eq,
        reduceCtorEq, if_false, if_true]
      omega
    · simpa [silenced_concat] using hreported
  | unmasked =>
    exact ⟨by simpa using hcount, by simpa using hunhandled, by simpa using hhandlers,
      by simp [silenced_concat]⟩
  | claimed =>
    have hone : (changes ++ [LineChange.claimed]).count .claimed
          + (changes ++ [LineChange.claimed]).count .unclaimed
        = changes.count .claimed + changes.count .unclaimed + 1 := by
      simp [Nat.add_right_comm]
    refine ⟨?_, by simpa using hunhandled, by simpa using hhandlers,
      by simpa [silenced_concat] using hreported⟩
    rw [hone, UInt64.ofNat_add, ← hcount]
    rfl
  | unclaimed =>
    have hone : (changes ++ [LineChange.unclaimed]).count .unclaimed
        = changes.count .unclaimed + 1 := by
      simp
    have hother : (changes ++ [LineChange.unclaimed]).count .claimed
        = changes.count .claimed := by
      simp
    refine ⟨?_, ?_, by simpa using hhandlers, by simp [silenced_concat]⟩
    · rw [hone, hother, ← Nat.add_assoc, UInt64.ofNat_add, ← hcount]
      rfl
    · rw [hone, UInt64.ofNat_add, ← hunhandled]
      rfl

end IrqLine

/-! ## Requests -/

namespace Registry

/-- **What a change makes of the registry**: it shows on its line only, and without one every line
is as it was. -/
def Makes (r : Registry H) (change? : Option (UInt8 × LineChange)) (r' : Registry H) : Prop :=
  match change? with
  | none => r'.line? = r.line?
  | some (irq, change) => ∃ l l', r.line? irq = some l ∧ l.Changes change l'
    ∧ r'.line? = Function.update r.line? irq (some l')

/-- **The registry keeps account of what happened.** -/
def Accounts (r : Registry H) (records : List (LineRecord H C)) : Prop :=
  ∀ irq l, r.line? irq = some l → l.Accounts (history records irq)

/-- The empty table accounts for no requests at all. -/
theorem empty_accounts : (empty : Registry H).Accounts ([] : List (LineRecord H C)) := by
  intro irq l hl
  obtain ⟨hlt, hl⟩ := Vector.getElem?_eq_some_iff.mp hl
  rw [← hl, empty, Vector.getElem_replicate]
  exact IrqLine.accounts_nil

variable {r r' : Registry H} {irq : UInt8}

/-- What a request changed is accounted for, on its line and on all others. -/
theorem Accounts.step {records : List (LineRecord H C)} (h : r.Accounts records)
    (record : LineRecord H C) (made : r.Makes record.change? r') :
    r'.Accounts (records ++ [record]) := by
  intro other l' hl'
  unfold Makes at made
  rcases hchange : record.change? with - | ⟨irq, change⟩
  · rw [hchange] at made
    rw [history_concat_of_none hchange]
    exact h other l' (made ▸ hl')
  · rw [hchange] at made
    obtain ⟨l, made, hl, hchanges, hlines⟩ := made
    rw [history_concat_of_some hchange]
    rw [hlines] at hl'
    -- only the line of the change has a longer history and another state
    by_cases hother : other = irq
    · subst hother
      rw [Function.update_self] at hl'
      rw [if_pos rfl, ← Option.some.inj hl']
      exact (h other l hl).step hchanges
    · rw [Function.update_of_ne hother] at hl'
      rw [if_neg (Ne.symm hother), List.append_nil]
      exact h other l' hl'

/-- Modifying a line that there is replaces that line and no other. -/
theorem line?_modifyLine_of_line? {l : IrqLine H} (hl : r.line? irq = some l)
    (f : IrqLine H → IrqLine H) :
    (r.modifyLine irq f).line? = Function.update r.line? irq (some (f l)) := by
  funext other
  rw [line?_modifyLine, Function.update_apply, hl]
  rfl

/-- Modifying a line makes a change of the table when it makes one of the line. -/
theorem makes_modifyLine {l : IrqLine H} {change : LineChange} {f : IrqLine H → IrqLine H}
    (hl : r.line? irq = some l) (h : l.Changes change (f l)) :
    r.Makes (some (irq, change)) (r.modifyLine irq f) :=
  ⟨l, f l, hl, h, line?_modifyLine_of_line? hl f⟩

/-- A delivery that nobody claimed is counted and noted as reported. -/
theorem makes_countUnhandled {l : IrqLine H} (hl : r.line? irq = some l) :
    r.Makes (some (irq, .unclaimed)) ((r.countDelivery irq).countUnhandled irq) := by
  refine ⟨l, _, hl, .unclaimed, ?_⟩
  have hcounted : (r.countDelivery irq).line? irq = some { l with count := l.count + 1 } := by
    rw [countDelivery, line?_modifyLine_of_line? hl, Function.update_self]
  rw [countUnhandled, line?_modifyLine_of_line? hcounted, countDelivery,
    line?_modifyLine_of_line? hl, Function.update_idem]

section Handlers

variable [Logger (StateM W)] [LineHandler H (StateM W)]

/-- An installation puts a handler on its line, or is refused and changes nothing. -/
theorem installLogged_makes (h : H) (cpu : Option Nat) (s : Scene W H) :
    ∃ reply r', (r.installLogged (m := SceneM W H) irq h cpu s).1 = (reply, r')
      ∧ ∀ events, r.Makes
        (⟨.install irq h cpu, .installed reply, events⟩ : LineRecord H C).change? r' := by
  unfold installLogged install
  cases hl : r.line? irq with
  | none => exact ⟨_, _, rfl, fun _ => rfl⟩
  | some l => exact ⟨_, _, rfl, fun _ => makes_modifyLine hl (.put _)⟩

/-- A removal takes a handler off its line, or finds none and changes nothing. -/
theorem removeLogged_makes (id : HandlerId) (s : Scene W H) :
    ∃ reply r', (r.removeLogged (m := SceneM W H) irq id s).1 = (reply, r')
      ∧ ∀ events, r.Makes
        (⟨.remove irq id, .removed reply, events⟩ : LineRecord H C).change? r' := by
  unfold removeLogged remove
  cases hl : r.line? irq with
  | none => exact ⟨_, _, rfl, fun _ => rfl⟩
  | some l =>
    dsimp only
    cases hunlink : unlink id l.chain with
    | none => exact ⟨_, _, rfl, fun _ => rfl⟩
    | some found =>
      obtain ⟨-, before, after, hchain, hrest⟩ := unlink_eq_some hunlink
      refine ⟨_, _, rfl, fun _ => makes_modifyLine hl ?_⟩
      rw [hrest]
      exact .taken hchain

end Handlers

/-- An unmasking rearms the report of its line, unless the line is out of range. -/
theorem unmaskLine_makes [Controller C (StateM W)] (c : C) (s : Scene W H) :
    ∃ reply r', (r.unmaskLine (m := SceneM W H) c irq s).1 = (reply, r')
      ∧ ∀ events, r.Makes
        (⟨.unmask c irq, .unmasked reply, events⟩ : LineRecord H C).change? r' := by
  unfold unmaskLine
  rw [SceneM.bind_apply]
  generalize (Controller.lineCount (m := SceneM W H) c s).1 = lines
  generalize (Controller.lineCount (m := SceneM W H) c s).2 = s'
  by_cases hlines : lines ≤ irq.toNat
  · rw [if_pos hlines]
    exact ⟨_, _, rfl, fun _ => rfl⟩
  · rw [if_neg hlines]
    cases hl : r.line? irq with
    | none => exact ⟨_, _, rfl, fun _ => rfl⟩
    | some l => exact ⟨_, _, rfl, fun _ => makes_modifyLine hl .unmasked⟩

/-! ## Deliveries -/

/-- **The line that reports an unclaimed delivery.** -/
def unhandledLine (irq vector : UInt8) : Record :=
  ⟨.info, s!"IRQ: Unhandled IRQ {irq.toNat} (vector {vector.toNat})"⟩

/-- A number ends where a blank follows it. -/
theorem eq_of_repr_append_blank {a b : Nat} {s t : String}
    (h : a.repr ++ (" " ++ s) = b.repr ++ (" " ++ t)) : a = b := by
  -- the digits of the number end at the blank, so they can be read back
  have htake : ∀ (n : Nat) (u : String),
      (n.repr ++ (" " ++ u)).toList.takeWhile Char.isDigit = Nat.toDigits 10 n := by
    intro n u
    rw [String.toList_append, Nat.toList_repr, String.toList_append,
      List.takeWhile_append_of_pos]
    · exact List.append_nil _
    · exact fun c hc => Nat.isDigit_of_mem_toDigits (by decide) (by decide) hc
  have hdigits := htake a s
  rw [h, htake b t] at hdigits
  have hvalue := congrArg (fun digits => Nat.ofDigitChars 10 digits 0) hdigits
  simp only [Nat.ofDigitChars_ten_toDigits] at hvalue
  exact hvalue.symm

/-- The reports of two lines differ, whatever the vectors. -/
theorem unhandledLine_inj {irq' vector vector' : UInt8}
    (h : unhandledLine irq vector = unhandledLine irq' vector') : irq = irq' := by
  have htext := congrArg Record.text h
  simp only [unhandledLine, toString, String.append_assoc] at htext
  have hrest := (String.append_right_inj _).mp htext
  rw [show (" (vector " : String) = " " ++ "(vector " from rfl, String.append_assoc,
    String.append_assoc] at hrest
  exact UInt8.toNat_inj.mp (eq_of_repr_append_blank hrest)

/-- What a delivery logs: a report of its line, when nobody claimed it and none was made before,
and no report of any line otherwise. -/
structure Reports (r : Registry H) (vector : UInt8) (outcome : DispatchOutcome)
    (said : List Record) : Prop where
  /-- The first unclaimed delivery of a line is reported. -/
  made : ∀ irq, outcome = .unhandled irq → r.isReported irq = false →
    said = [unhandledLine irq vector]
  /-- Nothing else is. -/
  only : ∀ irq vector', unhandledLine irq vector' ∈ said →
    outcome = .unhandled irq ∧ r.isReported irq = false

variable [LineHandler H (StateM W)]

/-- Asking the handlers logs nothing of its own. -/
theorem askChain_lines (irq : UInt8) (cpu : Nat) (entries : List (HandlerEntry H)) (f : Frame)
    (s : Scene W H) : (askChain (m := SceneM W H) irq cpu entries f s).2.lines = s.lines := by
  induction entries generalizing f s with
  | nil => rfl
  | cons e entries ih =>
    unfold askChain
    split
    · rw [SceneM.bind_apply]
      rcases (LineHandler.serve (m := SceneM W H) e.handler irq f s).1 with ⟨verdict, left⟩
      cases verdict with
      | handled => rfl
      | notMine => exact ih left _
    · exact ih f s

variable [Logger (StateM W)]

/-- A delivery on a line that exists is counted there, and reported if nobody claims it and none
was reported before. -/
theorem runChain_makes {l : IrqLine H} (hl : r.line? irq = some l) (vector : UInt8) (f : Frame)
    (cpu : Nat) (s : Scene W H) :
    ∃ outcome f' r' said,
      (r.runChain (m := SceneM W H) irq vector f cpu s).1 = (outcome, f', r')
      ∧ (r.runChain (m := SceneM W H) irq vector f cpu s).2.lines = s.lines ++ said
      ∧ r.Makes outcome.change? r' ∧ r.Reports vector outcome said := by
  have hlines := askChain_lines irq cpu (r.chain irq) f s
  unfold runChain
  rw [SceneM.bind_apply]
  obtain ⟨⟨verdict, f'⟩, s', hs⟩ : ∃ answer s',
      askChain (m := SceneM W H) irq cpu (r.chain irq) f s = (answer, s') :=
    ⟨_, _, rfl⟩
  rw [hs] at hlines ⊢
  cases verdict with
  | handled =>
    refine ⟨.handled irq, f', r.countDelivery irq, [], rfl, ?_, makes_modifyLine hl .claimed,
      fun _ h => (nomatch h), fun _ _ h => absurd h List.not_mem_nil⟩
    rw [List.append_nil]
    exact hlines
  | notMine =>
    refine ⟨.unhandled irq, f', _, if r.isReported irq then [] else [unhandledLine irq vector],
      ?_, ?_, makes_countUnhandled hl, ?_, ?_⟩
    · cases r.isReported irq <;> rfl
    · cases r.isReported irq
      · exact congrArg (· ++ [unhandledLine irq vector]) hlines
      · exact hlines.trans (List.append_nil _).symm
    · rintro _ ⟨⟩ hfresh
      rw [hfresh]
      rfl
    · intro irq' vector' h
      cases hfresh : r.isReported irq
      · rw [hfresh, if_neg Bool.false_ne_true, List.mem_singleton] at h
        obtain rfl := unhandledLine_inj h
        exact ⟨rfl, hfresh⟩
      · rw [hfresh, if_pos rfl] at h
        exact absurd h List.not_mem_nil

variable [Controller C (StateM W)]

/-- Serving a named line counts one delivery there, and reports an unclaimed one at most once. -/
theorem serveNamed_makes (r : Registry H) (c : C) (vector : UInt8) (irq? : Option UInt8)
    (f : Frame) (cpu : Nat) (s : Scene W H) :
    ∃ outcome f' r' said,
      (r.serveNamed (m := SceneM W H) c vector irq? f cpu s).1 = (outcome, f', r')
      ∧ (r.serveNamed (m := SceneM W H) c vector irq? f cpu s).2.lines = s.lines ++ said
      ∧ r.Makes outcome.change? r' ∧ r.Reports vector outcome said := by
  cases irq? with
  | none =>
    exact ⟨.spurious, f, r, [], rfl, (List.append_nil _).symm, rfl, fun _ h => (nomatch h),
      fun _ _ h => absurd h List.not_mem_nil⟩
  | some irq =>
    unfold serveNamed
    dsimp only
    rw [SceneM.bind_apply]
    generalize (Controller.lineCount (m := SceneM W H) c s).1 = lines
    have hlines : (Controller.lineCount (m := SceneM W H) c s).2.lines = s.lines := rfl
    generalize (Controller.lineCount (m := SceneM W H) c s).2 = s' at hlines
    by_cases hrange : min lines lineCount ≤ irq.toNat
    · rw [if_pos hrange]
      refine ⟨.outOfRange irq, f, r, [_], rfl, congrArg (· ++ [_]) hlines, rfl,
        fun _ h => (nomatch h), fun _ _ h => ?_⟩
      -- The line about a delivery out of range is of another level.
      exact nomatch congrArg Record.level (List.mem_singleton.mp h)
    · rw [if_neg hrange]
      obtain ⟨l, hl⟩ := r.line?_of_lt (Nat.lt_of_lt_of_le (Nat.lt_of_not_le hrange)
        (Nat.min_le_right _ _))
      rw [← hlines]
      exact runChain_makes hl vector f cpu s'

/-- **What a delivery makes of the registry, and what it logs.** -/
theorem dispatch_makes (r : Registry H) (c : C) (vector : UInt8) (f : Frame) (cpu : Nat)
    (s : Scene W H) :
    ∃ outcome f' r' said,
      (r.dispatch (m := SceneM W H) c vector f cpu s).1 = (outcome, f', r')
      ∧ (r.dispatch (m := SceneM W H) c vector f cpu s).2.lines = s.lines ++ said
      ∧ r.Makes outcome.change? r' ∧ r.Reports vector outcome said := by
  unfold dispatch
  rw [SceneM.bind_apply]
  exact serveNamed_makes r c vector _ f cpu _

/-! ## Runs -/

/-- **Every request makes of the registry what its record says.** -/
theorem answer_makes (r : Registry H) (request : LineRequest H C) (s : Scene W H) :
    ∃ reply r', (r.answer request s).1 = (reply, r')
      ∧ ∀ events, r.Makes (⟨request, reply, events⟩ : LineRecord H C).change? r' := by
  cases request with
  | install irq h cpu =>
    obtain ⟨reply, r', hresult, hmakes⟩ := installLogged_makes (C := C) (r := r) h cpu s
    exact ⟨_, r', congrArg (fun p => (LineReply.installed p.1, p.2)) hresult, hmakes⟩
  | remove irq id =>
    obtain ⟨reply, r', hresult, hmakes⟩ := removeLogged_makes (C := C) (r := r) id s
    exact ⟨_, r', congrArg (fun p => (LineReply.removed p.1, p.2)) hresult, hmakes⟩
  | isInstalled irq id => exact ⟨_, r, rfl, fun _ => rfl⟩
  | dispatch c vector f cpu =>
    obtain ⟨outcome, f', r', -, hresult, -, hmakes, -⟩ := dispatch_makes r c vector f cpu s
    exact ⟨.dispatched outcome f', r',
      congrArg (fun p => (LineReply.dispatched p.1 p.2.1, p.2.2)) hresult, fun _ => hmakes⟩
  | mask c irq => exact ⟨_, r, rfl, fun _ => rfl⟩
  | unmask c irq =>
    obtain ⟨reply, r', hresult, hmakes⟩ := unmaskLine_makes (r := r) c s
    exact ⟨_, r', congrArg (fun p => (LineReply.unmasked p.1, p.2)) hresult, hmakes⟩

/-- **A registry that kept account keeps it through any run.** -/
theorem Accounts.run {past : List (LineRecord H C)} (h : r.Accounts past)
    (requests : List (LineRequest H C)) (w : W) :
    ∃ records r' w', r.run requests w = (records, r', w')
      ∧ records.map LineRecord.request = requests ∧ r'.Accounts (past ++ records) := by
  induction requests generalizing r past w with
  | nil => exact ⟨[], r, w, rfl, rfl, (List.append_nil past).symm ▸ h⟩
  | cons request requests ih =>
    obtain ⟨reply, r', hanswer, hmakes⟩ := r.answer_makes request { world := w }
    generalize hs : (r.answer request { world := w }).2 = s
    have hstep := h.step ⟨request, reply, s.events⟩ (hmakes _)
    obtain ⟨records, r'', w', hrun, hrequests, haccounts⟩ := ih hstep s.world
    refine ⟨_, r'', w', run_cons (Prod.ext hanswer hs) hrun, by rw [List.map_cons, hrequests], ?_⟩
    rw [List.append_assoc] at haccounts
    exact haccounts

/-- **The registry keeps account of every line, over any run** from a fresh one, whatever the
handlers and the controllers do: the counters are the numbers of deliveries that the run served on
the line and of those nobody claimed, and the number of handlers is what was put on it less what
was taken off. After any such run, a delivery that nobody claims is reported exactly if none
went unclaimed on its line since a handler was last put there and since the line was last unmasked;
other deliveries report nothing, and those that are spurious or out of range change no line. -/
theorem run_keepsAccount (requests : List (LineRequest H C)) (w : W) :
    ∃ records r w', empty.run requests w = (records, r, w')
      ∧ records.map LineRecord.request = requests
      ∧ (∀ irq : UInt8, irq.toNat < lineCount →
          r.stats irq = some
            { count := UInt64.ofNat (ended records (.handled irq) + ended records (.unhandled irq))
              unhandled := UInt64.ofNat (ended records (.unhandled irq))
              handlers := (r.chain irq).length }
          ∧ (r.chain irq).length + (history records irq).count .taken
            = (history records irq).count .put)
      ∧ (∀ irq : UInt8, lineCount ≤ irq.toNat → r.stats irq = none)
      ∧ ∀ (c : C) (vector : UInt8) (f : Frame) (cpu : Nat) (s : Scene W H),
          ∃ outcome f' r' said,
            (r.answer (.dispatch c vector f cpu) s).1 = (.dispatched outcome f', r')
            ∧ (r.answer (.dispatch c vector f cpu) s).2.lines = s.lines ++ said
            ∧ (∀ irq, outcome = .unhandled irq → ¬Silenced (history records irq) →
                said = [unhandledLine irq vector])
            ∧ (∀ irq vector', unhandledLine irq vector' ∈ said →
                outcome = .unhandled irq ∧ ¬Silenced (history records irq))
            ∧ (outcome.change? = none → r'.stats = r.stats) := by
  obtain ⟨records, r, w', hrun, hrequests, haccounts⟩ :=
    (empty_accounts (H := H) (C := C)).run requests w
  rw [List.nil_append] at haccounts
  refine ⟨records, r, w', hrun, hrequests, fun irq hlt => ?_, fun irq hle => ?_,
    fun c vector f cpu s => ?_⟩
  · obtain ⟨l, hl⟩ := r.line?_of_lt hlt
    obtain ⟨hcount, hunhandled, hhandlers, -⟩ := haccounts irq l hl
    have hended :=
      count_history_eq_ended (rfl : (DispatchOutcome.unhandled irq).change? = _) records
    rw [hended] at hunhandled hcount
    rw [count_history_eq_ended (rfl : (DispatchOutcome.handled irq).change? = _)] at hcount
    rw [stats, hl, r.chain_of_line? hl, ← hcount, ← hunhandled]
    exact ⟨rfl, hhandlers⟩
  · rw [stats, r.line?_of_le hle]
    rfl
  · obtain ⟨outcome, f', r', said, hresult, hsaid, hmakes, hmade, honly⟩ :=
      dispatch_makes r c vector f cpu s
    -- whether a line was reported is what its history says of it
    have hreported : ∀ irq, outcome = .unhandled irq →
        (r.isReported irq = false ↔ ¬Silenced (history records irq)) := by
      rintro irq rfl
      obtain ⟨l, -, hl, -⟩ := hmakes
      rw [isReported, hl, ← (haccounts irq l hl).reported, Bool.not_eq_true]
    refine ⟨outcome, f', r', said,
      congrArg (fun p => (LineReply.dispatched p.1 p.2.1, p.2.2)) hresult, hsaid,
      fun irq h hnot => hmade irq h ((hreported irq h).mpr hnot), fun irq vector' h => ?_,
      fun h => ?_⟩
    · obtain ⟨hout, hfresh⟩ := honly irq vector' h
      exact ⟨hout, (hreported irq hout).mp hfresh⟩
    · rw [h] at hmakes
      funext irq
      rw [stats, stats, show r'.line? = r.line? from hmakes]

end Registry

end Interrupts
