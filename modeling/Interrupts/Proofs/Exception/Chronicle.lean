import Interrupts.Proofs.Exception.Slots

/-!
# The chronicle of the exception table

A table of exceptions is used by a sequence of requests: handlers are registered and removed from
outside, and exceptions arrive. A handler that is run may change its whole frame, and on its way it
may register and remove handlers itself, for its own vector too; and what it does may differ from
one time to the next, so that every exception that arrives brings along the behaviour of the
handlers at that time.

`FaultScene` keeps every table that is ever stored and every fatal report that is given, and
`ExceptionTable.run` carries out a list of requests in it. `Chronicle` says what each request does,
given the changes before it, and the main statement is that every run is a chronicle.
-/

namespace Interrupts

variable {E : Type}

/-! ## The scene -/

/-- **The table, and what was seen of it.** -/
structure FaultScene (E : Type) where
  table : ExceptionTable E
  /-- Every table that was stored so far. -/
  stores : List (ExceptionTable E) := []
  /-- The fatal reports that were given so far, each with the frame that was left. -/
  reports : List (FatalReport × Frame) := []
  lines : List Record := []

/-- The monad of a table at work. -/
abbrev FaultSceneM (E : Type) := StateM (FaultScene E)

namespace FaultSceneM

instance : Logger (FaultSceneM E) where
  log level text := fun s => ((), { s with lines := s.lines ++ [{ level, text }] })

instance : MonadStateOf (ExceptionTable E) (FaultSceneM E) where
  get := fun s => (s.table, s)
  set t := fun s => (⟨⟩, { s with table := t, stores := s.stores ++ [t] })
  modifyGet f := fun s =>
    let (a, t) := f s.table
    (a, { s with table := t, stores := s.stores ++ [t] })

/-- Take a fatal report. -/
def report (r : FatalReport) (left : Frame) : FaultSceneM E Unit := fun s =>
  ((), { s with reports := s.reports ++ [(r, left)] })

/-- A program of two parts runs one part after the other. -/
theorem bind_apply {α β : Type} (x : FaultSceneM E α) (f : α → FaultSceneM E β)
    (s : FaultScene E) : (x >>= f) s = f (x s).1 (x s).2 :=
  rfl

theorem getThe_apply (s : FaultScene E) :
    (getThe (ExceptionTable E) : FaultSceneM E _) s = (s.table, s) :=
  rfl

end FaultSceneM

/-! ## Requests -/

/-- **A request to the table.** -/
inductive FaultRequest (E : Type) where
  /-- Put a handler into the slot of a vector. -/
  | install (v : UInt8) (handler : E)
  /-- Empty the slot of a vector. -/
  | remove (v : UInt8)
  /-- An exception arrives on a processor; this is what handlers would do about it now. -/
  | arrive (handlers : FaultHandler E) (frame : Frame) (cpu : Nat)

/-- **The reply to a request.** -/
inductive FaultReply where
  /-- The change was made, or refused for a reason. -/
  | changed (answer : Except ExceptionError Unit)
  /-- What became of an exception, and the frame to go on with. -/
  | routed (outcome : ExceptionOutcome) (frame : Frame)

/-- **What is seen of one request.** -/
structure FaultRecord (E : Type) where
  request : FaultRequest E
  reply : FaultReply
  /-- The tables that were stored meanwhile. -/
  stores : List (ExceptionTable E)
  /-- The fatal reports that were given meanwhile. -/
  reports : List (FatalReport × Frame)

namespace ExceptionTable

/-- **Carry out one request.** -/
def answer : FaultRequest E → FaultSceneM E FaultReply
  | .install v h => do pure (.changed (← installHere v h))
  | .remove v => do pure (.changed (← removeHere E v))
  | .arrive handlers frame cpu => do
    let (outcome, left) ← @handle E (FaultSceneM E) _ _ _ handlers frame cpu FaultSceneM.report
    pure (.routed outcome left)

/-- **Carry out requests in turn**; answers what was seen of each, and the table afterwards. -/
def run (t : ExceptionTable E) : List (FaultRequest E) → List (FaultRecord E) × ExceptionTable E
  | [] => ([], t)
  | request :: requests =>
    let (reply, s) := answer request { table := t }
    let (records, t') := s.table.run requests
    ({ request, reply, stores := s.stores, reports := s.reports } :: records, t')

/-! ## Chronicles -/

open Vectors

/-- **What a handler does**: the changes it makes, what it decides, and the frame it leaves. Each
change of an open vector is granted and every other one is refused, and it hears which. -/
inductive Plays : Reaction E → List (SlotChange E) → ExceptionAction → Frame → Prop
  /-- The handler makes no change any more, and says what to do. -/
  | decide {action : ExceptionAction} {left : Frame} : Plays (.decide action left) [] action left
  /-- It fills a slot that is open, and goes on knowing that it did. -/
  | install {v : UInt8} {h : E} {next : Except ExceptionError Unit → Reaction E}
      {changes : List (SlotChange E)} {action : ExceptionAction} {left : Frame} (granted : IsOpen v)
      (rest : Plays (next (.ok ())) changes action left) :
      Plays (.install v h next) (.install v h :: changes) action left
  /-- It asks to fill one that is not, and goes on knowing why it was refused. -/
  | installRefused {v : UInt8} {h : E} {next : Except ExceptionError Unit → Reaction E}
      {changes : List (SlotChange E)} {action : ExceptionAction} {left : Frame} {e : ExceptionError}
      (refused : Refuses v e) (rest : Plays (next (.error e)) changes action left) :
      Plays (.install v h next) changes action left
  /-- It empties a slot that is open, its own one perhaps. -/
  | remove {v : UInt8} {next : Except ExceptionError Unit → Reaction E}
      {changes : List (SlotChange E)} {action : ExceptionAction} {left : Frame} (granted : IsOpen v)
      (rest : Plays (next (.ok ())) changes action left) :
      Plays (.remove v next) (.remove v :: changes) action left
  /-- It asks to empty one that is not. -/
  | removeRefused {v : UInt8} {next : Except ExceptionError Unit → Reaction E}
      {changes : List (SlotChange E)} {action : ExceptionAction} {left : Frame} {e : ExceptionError}
      (refused : Refuses v e) (rest : Plays (next (.error e)) changes action left) :
      Plays (.remove v next) changes action left

/-- **One table is stored for each change**, and shows it on top of the changes before. -/
inductive Follows : List (SlotChange E) → List (ExceptionTable E) → List (SlotChange E) → Prop
  | nil {past : List (SlotChange E)} : Follows past [] []
  /-- The next table shows the next change on top of all before it. -/
  | cons {past changes : List (SlotChange E)} {t : ExceptionTable E}
      {stores : List (ExceptionTable E)} {c : SlotChange E} (shows : t.Shows (past ++ [c]))
      (rest : Follows (past ++ [c]) stores changes) : Follows past (t :: stores) (c :: changes)

/-- The outcome of an exception that nobody resolved, with what its frame held when it arrived. -/
def fatalOutcome (frame : Frame) (cpu : Nat) (reason : FatalReason) : ExceptionOutcome :=
  .fatal
    { vector := UInt8.ofNat (frame.vector.toNat % 256)
      name := exceptionName (UInt8.ofNat (frame.vector.toNat % 256))
      cpu := cpu
      errorCode := frame.errorCode
      rip := frame.rip
      reason := reason }

/-- The reports that an outcome calls for. -/
def reportsOf (left : Frame) : ExceptionOutcome → List (FatalReport × Frame)
  | .handled => []
  | .fatal r => [(r, left)]

/-- **What becomes of an exception**, after some changes of the table: the outcome, the frame to go
on with, and the changes made by the handler that was run, if one was. -/
inductive Routes (past : List (SlotChange E)) (handlers : FaultHandler E) (frame : Frame)
    (cpu : Nat) : ExceptionOutcome → Frame → List (SlotChange E) → Prop
  /-- After a double fault or a machine check nobody is asked. -/
  | alwaysFatal (vector : frame.vector.toNat % 256 = 8 ∨ frame.vector.toNat % 256 = 18) :
      Routes past handlers frame cpu (fatalOutcome frame cpu .alwaysFatal) frame []
  /-- Neither is anybody about a reserved vector. -/
  | reserved (vector : frame.vector.toNat % 256 = 15
        ∨ 21 ≤ frame.vector.toNat % 256 ∧ frame.vector.toNat % 256 ≤ 29) :
      Routes past handlers frame cpu (fatalOutcome frame cpu .reserved) frame []
  /-- The vector is not one of the exceptions, or nobody has claimed it. -/
  | unhandled (vacant : 32 ≤ frame.vector.toNat % 256
        ∨ IsOpen frame.vectorByte
          ∧ ∀ h, ¬LastChange past frame.vectorByte (.install frame.vectorByte h)) :
      Routes past handlers frame cpu (fatalOutcome frame cpu .unhandled) frame []
  /-- The handler that was registered when the exception arrived is run, and resolves it. -/
  | handled {h : E} {changes : List (SlotChange E)} {left : Frame}
      (claimed : IsOpen frame.vectorByte)
      (standing : LastChange past frame.vectorByte (.install frame.vectorByte h))
      (plays : Plays (handlers.react h frame) changes .handled left) :
      Routes past handlers frame cpu .handled left changes
  /-- The handler that was registered when the exception arrived is run, and gives up. -/
  | escalated {h : E} {changes : List (SlotChange E)} {left : Frame}
      (claimed : IsOpen frame.vectorByte)
      (standing : LastChange past frame.vectorByte (.install frame.vectorByte h))
      (plays : Plays (handlers.react h frame) changes .escalate left) :
      Routes past handlers frame cpu (fatalOutcome frame cpu .escalated) left changes

/-- **What one request does**, after some changes of the table: the changes it makes itself, with
the reply and all else that is seen. -/
inductive Step (past : List (SlotChange E)) : FaultRecord E → List (SlotChange E) → Prop
  /-- A handler is installed, and one table is stored that shows it. -/
  | install {v : UInt8} {h : E} {stores : List (ExceptionTable E)} (granted : IsOpen v)
      (follows : Follows past stores [.install v h]) :
      Step past ⟨.install v h, .changed (.ok ()), stores, []⟩ [.install v h]
  /-- An installation is refused, and no table is stored. -/
  | installRefused {v : UInt8} {h : E} {e : ExceptionError} (refused : Refuses v e) :
      Step past ⟨.install v h, .changed (.error e), [], []⟩ []
  /-- A slot is emptied, and one table is stored that shows it. -/
  | remove {v : UInt8} {stores : List (ExceptionTable E)} (granted : IsOpen v)
      (follows : Follows past stores [.remove v]) :
      Step past ⟨.remove v, .changed (.ok ()), stores, []⟩ [.remove v]
  /-- A removal is refused, and no table is stored. -/
  | removeRefused {v : UInt8} {e : ExceptionError} (refused : Refuses v e) :
      Step past ⟨.remove v, .changed (.error e), [], []⟩ []
  /-- An exception is routed, and reported when it is fatal. -/
  | arrive {handlers : FaultHandler E} {frame left : Frame} {cpu : Nat}
      {outcome : ExceptionOutcome} {stores : List (ExceptionTable E)}
      {changes : List (SlotChange E)}
      (routes : Routes past handlers frame cpu outcome left changes)
      (follows : Follows past stores changes) :
      Step past ⟨.arrive handlers frame cpu, .routed outcome left, stores, reportsOf left outcome⟩
        changes

/-- **The chronicle of a table**: its requests one after the other, and all changes in the end. -/
inductive Chronicle : List (SlotChange E) → List (FaultRecord E) → List (SlotChange E) → Prop
  | nil {past : List (SlotChange E)} : Chronicle past [] past
  | cons {past changes total : List (SlotChange E)} {record : FaultRecord E}
      {records : List (FaultRecord E)} (step : Step past record changes)
      (rest : Chronicle (past ++ changes) records total) : Chronicle past (record :: records) total

/-! ## One change -/

variable {past : List (SlotChange E)} {s : FaultScene E}

/-- The scene after a change was granted. -/
structure Grants (past : List (SlotChange E)) (s : FaultScene E) (c : SlotChange E)
    (s' : FaultScene E) : Prop where
  stores : s'.stores = s.stores ++ [s'.table]
  reports : s'.reports = s.reports
  shows : s'.table.Shows (past ++ [c])

/-- The scene after a change was refused. -/
structure Keeps (s s' : FaultScene E) : Prop where
  table : s'.table = s.table
  stores : s'.stores = s.stores
  reports : s'.reports = s.reports

/-- **What comes of a change that was asked for**: it is granted and shown, or refused without any
effect. -/
inductive Asked (past : List (SlotChange E)) (s : FaultScene E) (c : SlotChange E) :
    Except ExceptionError Unit × FaultScene E → Prop
  | granted {s' : FaultScene E} (isOpen : IsOpen c.vector) (grants : Grants past s c s') :
      Asked past s c (.ok (), s')
  | refused {s' : FaultScene E} {e : ExceptionError} (refuses : Refuses c.vector e)
      (keeps : Keeps s s') : Asked past s c (.error e, s')

/-- A request to install a handler is granted for an open vector, which is written to the table, and
otherwise refused without any change. Either is logged. -/
theorem installHere_asked (hs : s.table.Shows past) (v : UInt8) (h : E) :
    Asked past s (.install v h) (installHere (m := FaultSceneM E) v h s) := by
  rcases checkVector_cases v with ⟨hopen, hcheck⟩ | ⟨e, hrefuses, hcheck⟩
  · have hinstall : s.table.install v h = .ok (s.table.setSlot v (some h)) := by
      rw [install, hcheck]
      rfl
    have hrun : installHere (m := FaultSceneM E) v h s
        = (.ok (), { s with
            table := s.table.setSlot v (some h)
            stores := s.stores ++ [s.table.setSlot v (some h)]
            lines := s.lines ++ [s.table.installLine v] }) := by
      unfold installHere
      rw [FaultSceneM.bind_apply, FaultSceneM.getThe_apply, hinstall]
      rfl
    rw [hrun]
    exact .granted hopen ⟨rfl, rfl, hs.setSlot (.install v h) hopen.1⟩
  · have hinstall : s.table.install v h = .error e := by
      rw [install, hcheck]
      rfl
    have hrun : installHere (m := FaultSceneM E) v h s
        = (.error e, { s with lines := s.lines ++ [s.table.installLine v] }) := by
      unfold installHere
      rw [FaultSceneM.bind_apply, FaultSceneM.getThe_apply, hinstall]
      rfl
    rw [hrun]
    exact .refused hrefuses ⟨rfl, rfl, rfl⟩

/-- A request to remove a handler is granted or refused in the same way, and not logged. -/
theorem removeHere_asked (hs : s.table.Shows past) (v : UInt8) :
    Asked past s (.remove v) (removeHere (m := FaultSceneM E) E v s) := by
  rcases checkVector_cases v with ⟨hopen, hcheck⟩ | ⟨e, hrefuses, hcheck⟩
  · have hremove : s.table.remove v = .ok (s.table.setSlot v none) := by
      rw [remove, hcheck]
      rfl
    have hrun : removeHere (m := FaultSceneM E) E v s
        = (.ok (), { s with
            table := s.table.setSlot v none
            stores := s.stores ++ [s.table.setSlot v none] }) := by
      unfold removeHere
      rw [FaultSceneM.bind_apply, FaultSceneM.getThe_apply, hremove]
      rfl
    rw [hrun]
    exact .granted hopen ⟨rfl, rfl, hs.setSlot (.remove v) hopen.1⟩
  · have hremove : s.table.remove v = .error e := by
      rw [remove, hcheck]
      rfl
    have hrun : removeHere (m := FaultSceneM E) E v s = (.error e, s) := by
      unfold removeHere
      rw [FaultSceneM.bind_apply, FaultSceneM.getThe_apply, hremove]
      rfl
    rw [hrun]
    exact .refused hrefuses ⟨rfl, rfl, rfl⟩

/-! ## Handlers -/

/-- The scene after a handler made some changes. -/
structure Makes (past : List (SlotChange E)) (s : FaultScene E) (changes : List (SlotChange E))
    (s' : FaultScene E) : Prop where
  stores : ∃ stores, s'.stores = s.stores ++ stores ∧ Follows past stores changes
  reports : s'.reports = s.reports
  shows : s'.table.Shows (past ++ changes)

theorem Makes.nil (hs : s.table.Shows past) : Makes past s [] s where
  stores := ⟨[], (List.append_nil _).symm, .nil⟩
  reports := rfl
  shows := by rwa [List.append_nil]

/-- A change that was granted, and then those of the rest. -/
theorem Makes.cons {c : SlotChange E} {changes : List (SlotChange E)} {s₁ s' : FaultScene E}
    (hfirst : Grants past s c s₁) (hrest : Makes (past ++ [c]) s₁ changes s') :
    Makes past s (c :: changes) s' where
  stores := by
    obtain ⟨stores, hstores, hfollows⟩ := hrest.stores
    exact ⟨s₁.table :: stores, by rw [hstores, hfirst.stores, List.append_assoc]; rfl,
      .cons hfirst.shows hfollows⟩
  reports := hrest.reports.trans hfirst.reports
  shows := by
    have hshows := hrest.shows
    rwa [List.append_assoc] at hshows

/-- What changes nothing may come before the changes. -/
theorem Makes.of_keeps {changes : List (SlotChange E)} {s₁ s' : FaultScene E}
    (hfirst : Keeps s s₁) (hrest : Makes past s₁ changes s') : Makes past s changes s' where
  stores := hfirst.stores ▸ hrest.stores
  reports := hrest.reports.trans hfirst.reports
  shows := hrest.shows

/-- **Carrying out what a handler does** makes just the changes it makes. -/
theorem carryOut_plays (r : Reaction E) (hs : s.table.Shows past) :
    ∃ action left changes s', carryOut (m := FaultSceneM E) r s = ((action, left), s')
      ∧ Plays r changes action left ∧ Makes past s changes s' := by
  -- The table changes from step to step, and the changes so far with it.
  induction r generalizing past s with
  | decide action left => exact ⟨action, left, [], s, rfl, .decide, .nil hs⟩
  | install v h next ih =>
    have hasked := installHere_asked hs v h
    have hrun : carryOut (m := FaultSceneM E) (.install v h next) s
        = carryOut (m := FaultSceneM E) (next (installHere (m := FaultSceneM E) v h s).1)
            (installHere (m := FaultSceneM E) v h s).2 := rfl
    generalize installHere (m := FaultSceneM E) v h s = answered at hasked hrun
    cases hasked with
    | granted hopen hgrants =>
      obtain ⟨action, left, changes, s', hrest, hplays, hmakes⟩ := ih (.ok ()) hgrants.shows
      exact ⟨action, left, _, s', hrun.trans hrest, .install hopen hplays, .cons hgrants hmakes⟩
    | refused hrefuses hkeeps =>
      obtain ⟨action, left, changes, s', hrest, hplays, hmakes⟩ :=
        ih (.error _) (hkeeps.table.symm ▸ hs)
      exact ⟨action, left, _, s', hrun.trans hrest, .installRefused hrefuses hplays,
        .of_keeps hkeeps hmakes⟩
  | remove v next ih =>
    have hasked := removeHere_asked hs v
    have hrun : carryOut (m := FaultSceneM E) (.remove v next) s
        = carryOut (m := FaultSceneM E) (next (removeHere (m := FaultSceneM E) E v s).1)
            (removeHere (m := FaultSceneM E) E v s).2 := rfl
    generalize removeHere (m := FaultSceneM E) E v s = answered at hasked hrun
    cases hasked with
    | granted hopen hgrants =>
      obtain ⟨action, left, changes, s', hrest, hplays, hmakes⟩ := ih (.ok ()) hgrants.shows
      exact ⟨action, left, _, s', hrun.trans hrest, .remove hopen hplays, .cons hgrants hmakes⟩
    | refused hrefuses hkeeps =>
      obtain ⟨action, left, changes, s', hrest, hplays, hmakes⟩ :=
        ih (.error _) (hkeeps.table.symm ▸ hs)
      exact ⟨action, left, _, s', hrun.trans hrest, .removeRefused hrefuses hplays,
        .of_keeps hkeeps hmakes⟩

/-! ## Exceptions -/

theorem vectorByte_toNat (frame : Frame) : frame.vectorByte.toNat = frame.vector.toNat % 256 :=
  UInt64.toNat_toUInt8 frame.vector

/-- The report is made of the frame as it is when the report is made. -/
theorem fatal_report (frame : Frame) (cpu : Nat) (reason : FatalReason) :
    .fatal (report frame cpu reason) = fatalOutcome frame cpu reason := by
  have hbyte : frame.vectorByte = UInt8.ofNat (frame.vector.toNat % 256) := by
    rw [← vectorByte_toNat, UInt8.ofNat_toNat]
  rw [report, fatalOutcome, hbyte]

/-- **Who is asked about an exception**, and why nobody is. -/
inductive Claims (past : List (SlotChange E)) (v : UInt8) : Except FatalReason E → Prop
  /-- A double fault and a machine check are never handed to anybody. -/
  | alwaysFatal (vector : v.toNat = 8 ∨ v.toNat = 18) : Claims past v (.error .alwaysFatal)
  /-- The processor does not raise these vectors. -/
  | reserved (vector : v.toNat = 15 ∨ 21 ≤ v.toNat ∧ v.toNat ≤ 29) :
      Claims past v (.error .reserved)
  /-- Nobody was installed last, or the vector is no exception at all. -/
  | unhandled (vacant : 32 ≤ v.toNat ∨ IsOpen v ∧ ∀ h, ¬LastChange past v (.install v h)) :
      Claims past v (.error .unhandled)
  /-- The handler that was installed last is asked. -/
  | claimed {h : E} (claimed : IsOpen v) (standing : LastChange past v (.install v h)) :
      Claims past v (.ok h)

/-- **The table tells who is asked**: vectors that are always fatal or reserved are turned away
before any slot is looked at, and any other goes to the handler that was installed last, if it was
not removed. -/
theorem claimant_claims {t : ExceptionTable E} (ht : t.Shows past) (v : UInt8) :
    Claims past v (t.claimant v) := by
  unfold claimant
  by_cases hfatal : isAlwaysFatal v = true
  · rw [if_pos hfatal]
    exact .alwaysFatal (isAlwaysFatal_iff.mp hfatal)
  rw [if_neg hfatal]
  by_cases hreserved : isReserved v = true
  · rw [if_pos hreserved]
    exact .reserved (isReserved_iff.mp hreserved)
  rw [if_neg hreserved]
  -- What is left are the open vectors, and the numbers beyond the exceptions, for which no slot
  -- exists.
  have hopen : v.toNat < 32 → IsOpen v := fun hinside =>
    isOpen_iff.mpr ⟨hinside, Bool.eq_false_iff.mpr hfatal, Bool.eq_false_iff.mpr hreserved⟩
  rcases hslot : t.handler? v with _ | h
  · refine .unhandled ?_
    rcases Nat.lt_or_ge v.toNat 32 with hinside | houtside
    · refine .inr ⟨hopen hinside, fun h hlast => ?_⟩
      rw [(ht v h).mpr hlast] at hslot
      exact nomatch hslot
    · exact .inl houtside
  · exact .claimed (hopen (lt_of_handler? hslot)) ((ht v h).mp hslot)

/-- **An exception is routed** by the table as it is when the exception arrives. -/
theorem dispatch_routes (hs : s.table.Shows past) (handlers : FaultHandler E) (frame : Frame)
    (cpu : Nat) :
    ∃ outcome left changes s',
      @dispatch E (FaultSceneM E) _ _ _ handlers frame cpu s = ((outcome, left), s')
        ∧ Routes past handlers frame cpu outcome left changes ∧ Makes past s changes s' := by
  -- Who is asked is settled before any handler runs, so the changes that the handler makes do not
  -- matter.
  have hclaims := claimant_claims hs frame.vectorByte
  unfold dispatch
  rw [FaultSceneM.bind_apply, FaultSceneM.getThe_apply]
  dsimp only
  cases hclaimant : s.table.claimant frame.vectorByte with
  | error reason =>
    rw [hclaimant] at hclaims
    refine ⟨fatalOutcome frame cpu reason, frame, [], s, ?_, ?_, .nil hs⟩
    · dsimp only
      rw [fatal_report]
      rfl
    · cases hclaims with
      | alwaysFatal hvector => exact .alwaysFatal (vectorByte_toNat frame ▸ hvector)
      | reserved hvector => exact .reserved (vectorByte_toNat frame ▸ hvector)
      | unhandled hvacant => exact .unhandled (vectorByte_toNat frame ▸ hvacant)
  | ok h =>
    rw [hclaimant] at hclaims
    cases hclaims with
    | claimed hopen hlast =>
      obtain ⟨action, left, changes, s', hrun, hplays, hmakes⟩ :=
        carryOut_plays (handlers.react h frame) hs
      dsimp only
      rw [FaultSceneM.bind_apply, hrun]
      cases action with
      | handled => exact ⟨.handled, left, changes, s', rfl, .handled hopen hlast hplays, hmakes⟩
      | escalate =>
        refine ⟨fatalOutcome frame cpu .escalated, left, changes, s', ?_,
          .escalated hopen hlast hplays, hmakes⟩
        dsimp only
        rw [fatal_report]
        rfl

/-- A fatal outcome is reported once more, and nothing else is. -/
theorem handle_apply (handlers : FaultHandler E) (frame : Frame) (cpu : Nat)
    {outcome : ExceptionOutcome} {left : Frame} {s' : FaultScene E}
    (h : @dispatch E (FaultSceneM E) _ _ _ handlers frame cpu s = ((outcome, left), s')) :
    @handle E (FaultSceneM E) _ _ _ handlers frame cpu FaultSceneM.report s
      = ((outcome, left), { s' with reports := s'.reports ++ reportsOf left outcome }) := by
  unfold handle
  rw [FaultSceneM.bind_apply, h]
  cases outcome with
  | handled => exact congrArg _ (congrArg (FaultScene.mk _ _ · _) (List.append_nil _).symm)
  | fatal r => rfl

/-! ## Requests -/

/-- **Every request is a step.** -/
theorem answer_step {t : ExceptionTable E} (ht : t.Shows past) (request : FaultRequest E) :
    ∃ reply changes s', answer request { table := t } = (reply, s')
      ∧ Step past ⟨request, reply, s'.stores, s'.reports⟩ changes
      ∧ s'.table.Shows (past ++ changes) := by
  cases request with
  | install v h =>
    have hasked := installHere_asked (s := { table := t }) ht v h
    have hrun : answer (.install v h) { table := t }
        = (.changed (installHere (m := FaultSceneM E) v h { table := t }).1,
          (installHere (m := FaultSceneM E) v h { table := t }).2) := rfl
    generalize installHere (m := FaultSceneM E) v h { table := t } = answered at hasked hrun
    cases hasked with
    | granted hopen hgrants =>
      refine ⟨_, _, _, hrun, ?_, hgrants.shows⟩
      rw [hgrants.stores, hgrants.reports]
      exact .install hopen (.cons hgrants.shows .nil)
    | refused hrefuses hkeeps =>
      refine ⟨_, [], _, hrun, ?_, ?_⟩
      · rw [hkeeps.stores, hkeeps.reports]
        exact .installRefused hrefuses
      · rwa [hkeeps.table, List.append_nil]
  | remove v =>
    have hasked := removeHere_asked (s := { table := t }) ht v
    have hrun : answer (.remove v) { table := t }
        = (.changed (removeHere (m := FaultSceneM E) E v { table := t }).1,
          (removeHere (m := FaultSceneM E) E v { table := t }).2) := rfl
    generalize removeHere (m := FaultSceneM E) E v { table := t } = answered at hasked hrun
    cases hasked with
    | granted hopen hgrants =>
      refine ⟨_, _, _, hrun, ?_, hgrants.shows⟩
      rw [hgrants.stores, hgrants.reports]
      exact .remove hopen (.cons hgrants.shows .nil)
    | refused hrefuses hkeeps =>
      refine ⟨_, [], _, hrun, ?_, ?_⟩
      · rw [hkeeps.stores, hkeeps.reports]
        exact .removeRefused hrefuses
      · rwa [hkeeps.table, List.append_nil]
  | arrive handlers frame cpu =>
    obtain ⟨outcome, left, changes, s', hdispatch, hroutes, hmakes⟩ :=
      dispatch_routes (s := { table := t }) ht handlers frame cpu
    -- The changes that handlers made are in the scene by now; what is added is the report, if any.
    obtain ⟨stores, hstores, hfollows⟩ := hmakes.stores
    have hrun : answer (.arrive handlers frame cpu) { table := t }
        = (.routed outcome left,
          { s' with reports := s'.reports ++ reportsOf left outcome }) := by
      rw [answer, FaultSceneM.bind_apply, handle_apply handlers frame cpu hdispatch]
      rfl
    refine ⟨_, changes, _, hrun, ?_, hmakes.shows⟩
    dsimp only
    rw [hstores, hmakes.reports]
    exact .arrive hroutes hfollows

/-- **A run writes a chronicle**, from any table on. -/
theorem run_chronicle (requests : List (FaultRequest E)) {t : ExceptionTable E}
    (ht : t.Shows past) :
    ∃ records changes t', t.run requests = (records, t')
      ∧ records.map FaultRecord.request = requests
      ∧ Chronicle past records changes ∧ t'.Shows changes := by
  induction requests generalizing past t with
  | nil => exact ⟨[], past, t, rfl, rfl, .nil, ht⟩
  | cons request requests ih =>
    obtain ⟨reply, changes, s', hanswer, hstep, hshows⟩ := answer_step ht request
    obtain ⟨records, total, t', hrun, hrequests, hchronicle, htotal⟩ := ih hshows
    refine ⟨⟨request, reply, s'.stores, s'.reports⟩ :: records, total, t', ?_, ?_,
      .cons hstep hchronicle, htotal⟩
    · rw [run, hanswer]
      dsimp only
      rw [hrun]
    · rw [List.map_cons, hrequests]

/-! ## Closed vectors -/

/-- A handler can change the slots of open vectors only. -/
theorem Plays.isOpen {r : Reaction E} {changes : List (SlotChange E)} {action : ExceptionAction}
    {left : Frame} (h : Plays r changes action left) : ∀ c ∈ changes, IsOpen c.vector := by
  induction h with
  | decide => exact fun _ hmem => absurd hmem List.not_mem_nil
  | install hopen _ ih => exact List.forall_mem_cons.mpr ⟨hopen, ih⟩
  | installRefused _ _ ih => exact ih
  | remove hopen _ ih => exact List.forall_mem_cons.mpr ⟨hopen, ih⟩
  | removeRefused _ _ ih => exact ih

/-- So can any request. -/
theorem Step.isOpen {record : FaultRecord E} {changes : List (SlotChange E)}
    (h : Step past record changes) : ∀ c ∈ changes, IsOpen c.vector := by
  cases h with
  | install hopen _ => exact List.forall_mem_singleton.mpr hopen
  | installRefused => exact fun _ hmem => absurd hmem List.not_mem_nil
  | remove hopen _ => exact List.forall_mem_singleton.mpr hopen
  | removeRefused => exact fun _ hmem => absurd hmem List.not_mem_nil
  | arrive hroutes _ =>
    cases hroutes with
    | alwaysFatal => exact fun _ hmem => absurd hmem List.not_mem_nil
    | reserved => exact fun _ hmem => absurd hmem List.not_mem_nil
    | unhandled => exact fun _ hmem => absurd hmem List.not_mem_nil
    | handled _ _ hplays => exact hplays.isOpen
    | escalated _ _ hplays => exact hplays.isOpen

/-- Each table that is stored has handlers of open vectors only. -/
theorem Follows.isOpen {changes : List (SlotChange E)} {stores : List (ExceptionTable E)}
    (h : Follows past stores changes) (hpast : ∀ c ∈ past, IsOpen c.vector)
    (hchanges : ∀ c ∈ changes, IsOpen c.vector) :
    ∀ t ∈ stores, ∀ v, t.isRegistered v = true → IsOpen v := by
  induction h with
  | nil => exact fun _ hmem => absurd hmem List.not_mem_nil
  | cons hshows _ ih =>
    rw [List.forall_mem_cons] at hchanges
    have hnext := List.forall_mem_append.mpr ⟨hpast, List.forall_mem_singleton.mpr hchanges.1⟩
    exact List.forall_mem_cons.mpr
      ⟨fun v => hshows.isOpen hnext, ih hnext hchanges.2⟩

/-- Every table that a request stores has its handlers on open vectors. -/
theorem Step.stores_isOpen {record : FaultRecord E} {changes : List (SlotChange E)}
    (h : Step past record changes) (hpast : ∀ c ∈ past, IsOpen c.vector) :
    ∀ t ∈ record.stores, ∀ v, t.isRegistered v = true → IsOpen v := by
  have hopen := h.isOpen
  cases h with
  | install _ hfollows => exact hfollows.isOpen hpast hopen
  | installRefused => exact fun _ hmem => absurd hmem List.not_mem_nil
  | remove _ hfollows => exact hfollows.isOpen hpast hopen
  | removeRefused => exact fun _ hmem => absurd hmem List.not_mem_nil
  | arrive _ hfollows => exact hfollows.isOpen hpast hopen

/-- **A chronicle changes open vectors only**, and stores no table with any other handler. -/
theorem Chronicle.isOpen {records : List (FaultRecord E)} {total : List (SlotChange E)}
    (h : Chronicle past records total) (hpast : ∀ c ∈ past, IsOpen c.vector) :
    (∀ c ∈ total, IsOpen c.vector)
      ∧ ∀ record ∈ records, ∀ t ∈ record.stores, ∀ v, t.isRegistered v = true → IsOpen v := by
  induction h with
  | nil => exact ⟨hpast, fun _ hmem => absurd hmem List.not_mem_nil⟩
  | cons hstep _ ih =>
    obtain ⟨htotal, hrest⟩ := ih (List.forall_mem_append.mpr ⟨hpast, hstep.isOpen⟩)
    exact ⟨htotal, List.forall_mem_cons.mpr ⟨hstep.stores_isOpen hpast, hrest⟩⟩

/-! ## The chronicle of a table that began empty -/

/-- **Every run of an exception table that began empty is a chronicle.** Its requests are answered
one after the other, each as `Step` has it; in the end a vector is registered exactly when its last
change was to register a handler; and neither then nor at any time before is there a handler of a
vector that is not open. -/
theorem run_isChronicle (requests : List (FaultRequest E)) :
    ∃ records changes table, (empty : ExceptionTable E).run requests = (records, table)
      ∧ records.map FaultRecord.request = requests
      ∧ Chronicle [] records changes
      ∧ (∀ v, table.isRegistered v = true ↔ ∃ h, LastChange changes v (.install v h))
      ∧ (∀ v, table.isRegistered v = true → IsOpen v)
      ∧ ∀ record ∈ records, ∀ t ∈ record.stores, ∀ v, t.isRegistered v = true → IsOpen v := by
  obtain ⟨records, changes, table, hrun, hrequests, hchronicle, hshows⟩ :=
    run_chronicle requests empty_shows
  obtain ⟨hopen, hstores⟩ := hchronicle.isOpen fun _ hmem => absurd hmem List.not_mem_nil
  exact ⟨records, changes, table, hrun, hrequests, hchronicle, hshows.isRegistered_iff,
    fun v => hshows.isOpen hopen, hstores⟩

/-- A handler of page faults that removes itself is still asked to the end, once. -/
example :
    let handlers : FaultHandler Unit := ⟨fun _ frame => .remove 14 fun _ => .decide .handled frame⟩
    let frame := Frame.forVector 14 2
    ((empty.run [.install 14 (), .arrive handlers frame 0, .arrive handlers frame 0]).1.map
        FaultRecord.reply)
      = [.changed (.ok ()), .routed .handled frame,
        .routed (fatalOutcome frame 0 .unhandled) frame] :=
  rfl

end ExceptionTable

end Interrupts
