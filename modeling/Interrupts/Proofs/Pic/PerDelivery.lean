import Interrupts.Proofs.Pic.Delivery

/-!
# The line in service and the line of the vector

The pair is asked for the line of a delivery, and told the vector of it; but what it names is the
lowest line that its chips report in service, the cascade left aside. This is the line of the vector
as long as no other service is in the way. A delivery that interrupts the service of a lower line
is taken for that line, and a spurious one is only seen while no line at all is in service.

`ServesDelivery` is what one would ask of a delivery on the vector of a line: if the chips report
the line, it is served and ended, and if not the delivery is spurious. `servesDelivery_iff` says
what is done instead, and when it comes to the same.
-/

namespace Interrupts.Pic

open Boot

variable {X : Surroundings} [Behaviour X]

/-! ## Conversations with the pair -/

/-- What the chips answer is determined. -/
theorem Asked.unique {k k₁ k₂ : Kernel X} {master slave master' slave' : UInt8}
    (h : Asked k master slave k₁) (h' : Asked k master' slave' k₂) :
    master' = master ∧ slave' = slave := by
  obtain ⟨_, _, _, hmaster, hslave, hread, hread'⟩ := h
  obtain ⟨_, _, _, hmaster', hslave', hread₂, hread₂'⟩ := h'
  cases hmaster.symm.trans hmaster'
  cases hslave.symm.trans hslave'
  cases hread.symm.trans hread₂
  cases hread'.symm.trans hread₂'
  exact ⟨rfl, rfl⟩

/-- **A delivery on the vector of line `l`, once the pair has been asked**: it is conducted for the
line that was named, or as a spurious one when none was. -/
inductive Concludes (r : Registry (KernelHandler (Watched X))) (v : UInt8) (f : Frame) (cpu : Nat)
    (l : UInt8) (k : Kernel (Watched X)) : Option UInt8 →
    DispatchOutcome × Frame × Registry (KernelHandler (Watched X)) → Kernel (Watched X) → Prop
  /-- The handlers of the line run, and then the line is ended on its chips. -/
  | served {irq : UInt8} {outcome : DispatchOutcome} {f' : Frame}
    {r' : Registry (KernelHandler (Watched X))} {k₁ k' : Kernel (Watched X)}
    (run : r.runChain (m := Boot (Watched X)) irq v f cpu k = .ok (outcome, f', r') k₁)
    (quiet : Silently k.hardware k₁.hardware)
    (ends : k'.events = k₁.events
      ++ if 8 ≤ irq then [.out 0xa0 0x20, .out 0x20 0x20] else [.out 0x20 0x20]) :
    Concludes r v f cpu l k (some irq) (outcome, f', r') k'
  /-- No handler runs, and only the master is told, if it is a line of the slave. -/
  | spurious {k' : Kernel (Watched X)}
    (ends : k'.events = k.events ++ if 8 ≤ l then [.out 0x20 0x20] else []) :
    Concludes r v f cpu l k none (.spurious, f, r) k'

/-- **A delivery on the vector of line `l` is served for what it is**: if the chips report the line
in service, then its handlers run and it is ended, and otherwise the delivery is spurious. -/
def ServesDelivery (r : Registry (KernelHandler (Watched X))) (v : UInt8) (f : Frame) (cpu : Nat)
    (l : UInt8) (k : Kernel (Watched X)) : Prop :=
  ∃ master slave k₀ named k₁ result k', Asked k master slave k₀
    ∧ Controller.currentIrq (m := Boot (Watched X)) (.pic : ActiveController (Watched X)) v k
      = .ok named k₁
    ∧ Silently k.hardware k₁.hardware
    ∧ r.dispatch (m := Boot (Watched X)) (.pic : ActiveController (Watched X)) v f cpu k
      = .ok result k'
    ∧ (Reports master slave l.toNat → Concludes r v f cpu l k₁ (some l) result k')
    ∧ (¬Reports master slave l.toNat → Concludes r v f cpu l k₁ none result k')

/-- **No other service is in the way** of line `l`: whatever else the chips report, the cascade left
aside, comes after `l`, and it is only reported along with `l`. -/
def Unobscured (master slave : UInt8) (l : Nat) : Prop :=
  ∀ i < 16, i ≠ 2 → Reports master slave i → l ≤ i ∧ Reports master slave l

section Naming

variable {master slave l : UInt8}

/-- The line of the vector is named exactly if no other service is in the way. -/
theorem unobscured_iff (hl : l < 16) (hne : l ≠ 2) : Unobscured master slave l.toNat
    ↔ (Reports master slave l.toNat → namedLine master slave = some l)
      ∧ (¬Reports master slave l.toNat → namedLine master slave = none) := by
  have hlt : l.toNat < 16 := hl
  have hcascade : l.toNat ≠ 2 := fun h => hne (UInt8.toNat_inj.mp h)
  rw [namedLine_eq_some_iff hl, namedLine_eq_none_iff]
  constructor
  · exact fun h => ⟨fun hreports => ⟨⟨hcascade, hreports⟩, fun i hi hi2 hother =>
        absurd (h i (Nat.lt_trans hi hlt) hi2 hother).1 (Nat.not_le_of_lt hi)⟩,
      fun hnot i hi hi2 hother => hnot (h i hi hi2 hother).2⟩
  · rintro ⟨hserved, hspurious⟩ i hi hi2 hother
    -- a report of a lower line would be named instead, and a report of any line would be named at
    -- all
    by_cases hreports : Reports master slave l.toNat
    · exact ⟨Nat.le_of_not_lt fun hlower => (hserved hreports).2 i hlower hi2 hother, hreports⟩
    · exact absurd hother (hspurious hreports i hi hi2)

/-- A named line is one of the sixteen. -/
theorem namedLine_lt {irq : UInt8} (h : namedLine master slave = some irq) : irq.toNat < 16 := by
  obtain ⟨i, hi, rfl⟩ := Option.map_eq_some_iff.mp h
  have hlt : i < 16 := List.mem_range.mp (List.mem_of_find?_eq_some hi)
  rwa [UInt8.toNat_ofNat_of_lt' (Nat.lt_trans hlt (by decide))]

end Naming

/-! ## Deliveries -/

section Serving

variable {r r' : Registry (KernelHandler (Watched X))} {v l : UInt8} {f f' : Frame} {cpu : Nat}
  {k k' : Kernel (Watched X)} {outcome : DispatchOutcome}

/-- **What came of a delivery tells for which line it was conducted.** -/
theorem Concludes.named_unique {named named' : Option UInt8} {k₁ : Kernel (Watched X)}
    {result : DispatchOutcome × Frame × Registry (KernelHandler (Watched X))}
    (h : Concludes r v f cpu l k₁ named result k')
    (h' : Concludes r v f cpu l k₁ named' result k') : named' = named := by
  -- a served line shows in the outcome, and a spurious outcome shows that no line was
  cases h with
  | served run =>
    cases h' with
    | served run' =>
      rcases runChain_eq_ok run with ⟨rfl, -⟩ | ⟨rfl, -⟩ <;>
        rcases runChain_eq_ok run' with ⟨h, -⟩ | ⟨h, -⟩ <;> cases h <;> rfl
    | spurious => exact (runChain_eq_ok run).elim (fun h => nomatch h.1) (fun h => nomatch h.1)
  | spurious =>
    cases h' with
    | served run' => exact (runChain_eq_ok run').elim (fun h => nomatch h.1) (fun h => nomatch h.1)
    | spurious => rfl

omit [Behaviour X] in
/-- With no line named, a vector of the slave still has its cascade acknowledged at the master. -/
theorem endings_none (hline : k.pic.lineForVector v = some l) :
    k.pic.endings v none = if 8 ≤ l then [.out 0x20 0x20] else [] := by
  unfold endings
  dsimp only
  simp only [hline, Option.some.injEq, exists_eq_left']
  rfl

/-- A calm kernel gets an answer from the pair, and has acknowledged nothing by then. -/
theorem named_of_calm (hcalm : k.Calm) (hline : k.pic.lineForVector v = some l) :
    ∃ master slave k₀ k₁, Asked k master slave k₀
      ∧ Controller.currentIrq (m := Boot (Watched X)) (.pic : ActiveController (Watched X)) v k
        = .ok (namedLine master slave) k₁
      ∧ Kernel.Keeps (silent X fun _ => False) k k₁ := by
  have hselect : ∀ port, (silent X fun _ => False).mayWrite port Pic.readInService := fun _ h =>
    h.2 rfl
  obtain ⟨named, k₁, hasking⟩ := hcalm.returns (Conduct.obeys_picIrq (fun _ => trivial) k.pic v)
  have hkeeps := (Conduct.obeys_picIrq hselect k.pic v).returns hasking
  obtain ⟨master, slave, k₀, hasked, rfl⟩ := currentIrq_asks hline hasking
  exact ⟨master, slave, k₀, k₁, hasked, hasking, hkeeps⟩

/-- A calm kernel ends the delivery. -/
theorem ended_of_calm (hcalm : k.Calm) (v : UInt8) (irq? : Option UInt8) :
    ∃ k', Controller.eoi (m := Boot (Watched X)) (.pic : ActiveController (Watched X)) v irq? k
        = .ok () k'
      ∧ k'.events = k.events ++ k.pic.endings v irq? := by
  obtain ⟨_, k', heoi⟩ :=
    hcalm.returns (Conduct.obeys_acknowledge (fun _ => trivial) k.pic v irq?)
  exact ⟨k', heoi, acknowledge_pic_events heoi⟩

/-- A named line is a line of the table, so it is served by its chain. -/
theorem serveNamed_some {irq : UInt8} (hirq : irq.toNat < 16) :
    r.serveNamed (m := Boot (Watched X)) (.pic : ActiveController (Watched X)) v (some irq) f cpu k
      = r.runChain (m := Boot (Watched X)) irq v f cpu k :=
  congrFun (if_neg (Nat.not_le_of_lt hirq) : (if min Pic.lines Registry.lineCount ≤ irq.toNat then
    _ else r.runChain (m := Boot (Watched X)) irq v f cpu) = _) k

/-- A delivery is dispatched in three parts. -/
theorem dispatch_of_ok {a : ActiveController (Watched X)} {irq? : Option UInt8}
    {result : DispatchOutcome × Frame × Registry (KernelHandler (Watched X))}
    {k₁ k₂ : Kernel (Watched X)}
    (hirq : Controller.currentIrq (m := Boot (Watched X)) a v k = .ok irq? k₁)
    (hserve : r.serveNamed (m := Boot (Watched X)) a v irq? f cpu k₁ = .ok result k₂)
    (heoi : Controller.eoi (m := Boot (Watched X)) a v irq? k₂ = .ok () k') :
    r.dispatch (m := Boot (Watched X)) a v f cpu k = .ok result k' := by
  unfold Registry.dispatch
  rw [bind_of_ok hirq, bind_of_ok hserve, bind_of_ok heoi]
  rfl

/-- **Every delivery on the pair's vectors is conducted for the line that the pair names.** -/
theorem dispatch_concludes (hcalm : k.Calm) (hline : k.pic.lineForVector v = some l)
    (r : Registry (KernelHandler (Watched X))) (f : Frame) (cpu : Nat) :
    ∃ master slave k₀ k₁ result k', Asked k master slave k₀
      ∧ Controller.currentIrq (m := Boot (Watched X)) (.pic : ActiveController (Watched X)) v k
        = .ok (namedLine master slave) k₁
      ∧ Silently k.hardware k₁.hardware
      ∧ r.dispatch (m := Boot (Watched X)) (.pic : ActiveController (Watched X)) v f cpu k
        = .ok result k'
      ∧ Concludes r v f cpu l k₁ (namedLine master slave) result k' := by
  obtain ⟨master, slave, k₀, k₁, hasked, hnamed, hkeeps⟩ := named_of_calm hcalm hline
  have hcalm₁ : k₁.Calm := hkeeps.calm_iff.mpr hcalm
  refine ⟨master, slave, k₀, k₁, ?_⟩
  -- the chain runs between the question and the commands, and sends none itself
  generalize hline' : namedLine master slave = named at hnamed
  cases named with
  | none =>
    obtain ⟨k', heoi, hevents⟩ := ended_of_calm hcalm₁ v none
    rw [hkeeps.pic, endings_none hline] at hevents
    exact ⟨_, k', hasked, hnamed, hkeeps.hardware, dispatch_of_ok hnamed rfl heoi,
      .spurious hevents⟩
  | some irq =>
    obtain ⟨⟨outcome, f', r'⟩, k₂, hrun⟩ : ∃ result k₂,
        r.runChain (m := Boot (Watched X)) irq v f cpu k₁ = .ok result k₂ :=
      hcalm₁.returns (Conduct.obeys_runChain (.inl trivial) v f cpu)
    have hkeeps' :=
      (Conduct.obeys_runChain (c := silent X fun _ => False) (.inl trivial) v f cpu).returns hrun
    obtain ⟨k', heoi, hevents⟩ := ended_of_calm (hkeeps'.calm_iff.mpr hcalm₁) v (some irq)
    exact ⟨_, k', hasked, hnamed, hkeeps.hardware,
      dispatch_of_ok hnamed ((serveNamed_some (namedLine_lt hline')).trans hrun) heoi,
      .served hrun hkeeps'.hardware hevents⟩

/-- A delivery is served for what it is when its own line is named, or none if the chips do not
report it. -/
theorem Concludes.serves_iff_named {master slave : UInt8} {k₀ k₁ : Kernel (Watched X)}
    {result : DispatchOutcome × Frame × Registry (KernelHandler (Watched X))}
    (h : Concludes r v f cpu l k₁ (namedLine master slave) result k')
    (hasked : Asked k master slave k₀)
    (hnamed : Controller.currentIrq (m := Boot (Watched X)) (.pic : ActiveController (Watched X)) v
      k = .ok (namedLine master slave) k₁)
    (hsilent : Silently k.hardware k₁.hardware)
    (hdispatch : r.dispatch (m := Boot (Watched X)) (.pic : ActiveController (Watched X)) v f cpu k
      = .ok result k') :
    ServesDelivery r v f cpu l k
      ↔ (Reports master slave l.toNat → namedLine master slave = some l)
        ∧ (¬Reports master slave l.toNat → namedLine master slave = none) := by
  constructor
  · rintro ⟨_, _, _, _, _, _, _, hasked', hnamed', -, hdispatch', hserved, hspurious⟩
    obtain ⟨rfl, rfl⟩ := hasked.unique hasked'
    cases hnamed.symm.trans hnamed'
    cases hdispatch.symm.trans hdispatch'
    exact ⟨fun hreports => (hserved hreports).named_unique h,
      fun hnot => (hspurious hnot).named_unique h⟩
  · rintro ⟨hserved, hspurious⟩
    exact ⟨master, slave, k₀, _, k₁, result, k', hasked, hnamed, hsilent, hdispatch,
      fun hreports => hserved hreports ▸ h, fun hnot => hspurious hnot ▸ h⟩

/-- **When the pair serves a delivery for what it is**, for any two bases up to `0xf0` whose ranges
lie apart, any line but the cascade, and whatever its chips report: it names the lowest line that
they report, the cascade left aside, and the delivery is conducted for that line, or as a spurious
one when there is none. This is right exactly if no other service is in the way. -/
theorem servesDelivery_iff (hcalm : k.Calm) (hapart : k.pic.RangesApart)
    (hmaster : k.pic.master ≤ 0xf0) (hslave : k.pic.slave ≤ 0xf0) (hl : l < 16) (hne : l ≠ 2)
    (hv : v.toNat = k.pic.lineVector l) (r : Registry (KernelHandler (Watched X))) (f : Frame)
    (cpu : Nat) :
    ∃ master slave k₀ k₁ result k', Asked k master slave k₀
      ∧ Controller.currentIrq (m := Boot (Watched X)) (.pic : ActiveController (Watched X)) v k
        = .ok (namedLine master slave) k₁
      ∧ Silently k.hardware k₁.hardware
      ∧ r.dispatch (m := Boot (Watched X)) (.pic : ActiveController (Watched X)) v f cpu k
        = .ok result k'
      ∧ Concludes r v f cpu l k₁ (namedLine master slave) result k'
      ∧ (ServesDelivery r v f cpu l k ↔ Unobscured master slave l.toNat) := by
  -- the bases end at 0xf0, so no line has the vector that is never dispatched
  have hlast : v.toNat ≠ 255 := by
    have hl : l.toNat < 16 := hl
    have hmaster : k.pic.master.toNat ≤ 0xf0 := UInt8.le_iff_toNat_le.mp hmaster
    have hslave : k.pic.slave.toNat ≤ 0xf0 := UInt8.le_iff_toNat_le.mp hslave
    unfold lineVector at hv
    split at hv <;> omega
  obtain ⟨master, slave, k₀, k₁, result, k', hasked, hnamed, hsilent, hdispatch, hconcludes⟩ :=
    dispatch_concludes hcalm (lineForVector_lineVector hapart hl hv hlast) r f cpu
  refine ⟨master, slave, k₀, k₁, result, k', hasked, hnamed, hsilent, hdispatch, hconcludes, ?_⟩
  rw [unobscured_iff hl hne]
  exact hconcludes.serves_iff_named hasked hnamed hsilent hdispatch

end Serving

/-! ## A machine with fixed reports -/

section Fixed

variable {master slave : UInt8}

/-- A kernel of a machine whose chips always report these two bytes. -/
def fixedReports (master slave : UInt8) : Kernel (Watched (Reporting master slave)) :=
  { hardware := ((), []), active := some .pic }

theorem calm_fixedReports : (fixedReports master slave).Calm :=
  ⟨nofun, nofun, nofun⟩

/-- The mouse interrupts the service of line 13, and its own line is the one that is served. -/
theorem servesDelivery_mouse :
    (fixedReports 0x04 0x30).Calm ∧ (fixedReports 0x04 0x30).pic.RangesApart
      ∧ (0x2c : UInt8).toNat = (fixedReports 0x04 0x30).pic.lineVector 12
      ∧ ServesDelivery .empty 0x2c default 0 12 (fixedReports 0x04 0x30) := by
  have hapart : (fixedReports 0x04 0x30).pic.RangesApart := .inl (by decide)
  refine ⟨calm_fixedReports, hapart, by decide, ?_⟩
  obtain ⟨master, slave, _, _, _, _, hasked, -, -, -, -, hiff⟩ :=
    servesDelivery_iff (v := 0x2c) (l := 12) (k := fixedReports 0x04 0x30) calm_fixedReports hapart
      (by decide) (by decide) (by decide) (by decide) (by decide) .empty default 0
  obtain ⟨rfl, rfl⟩ := hasked.reporting
  refine hiff.mpr ?_
  unfold Unobscured Reports
  decide

/-- **Two deliveries that are not served for what they are.** While line 1 is in service, a spurious
delivery on the vector of line 7 is taken for line 1; and when line 9 interrupts the service of
line 5, line 5 is served and ended in its place. -/
theorem not_servesDelivery_nested :
    ¬ServesDelivery .empty 0x27 default 0 7 (fixedReports 0x02 0)
      ∧ ¬ServesDelivery .empty 0x29 default 0 9 (fixedReports 0x24 0x02) := by
  constructor
  · obtain ⟨master, slave, _, _, _, _, hasked, hnamed, hsilent, hdispatch, hconcludes⟩ :=
      dispatch_concludes (k := fixedReports 0x02 0) (v := 0x27) (l := 7) calm_fixedReports
        (by decide) .empty default 0
    obtain ⟨rfl, rfl⟩ := hasked.reporting
    rw [hconcludes.serves_iff_named hasked hnamed hsilent hdispatch]
    unfold Reports
    decide
  · obtain ⟨master, slave, _, _, _, _, hasked, hnamed, hsilent, hdispatch, hconcludes⟩ :=
      dispatch_concludes (k := fixedReports 0x24 0x02) (v := 0x29) (l := 9) calm_fixedReports
        (by decide) .empty default 0
    obtain ⟨rfl, rfl⟩ := hasked.reporting
    rw [hconcludes.serves_iff_named hasked hnamed hsilent hdispatch]
    unfold Reports
    decide

end Fixed

end Interrupts.Pic
