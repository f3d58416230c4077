import Interrupts.Proofs.Registry.LineMap

/-!
# The registry is a map from lines to lists of handlers

Every request to the registry is a step of `LineMap`, whatever the handlers and the controllers do
to their world, and so any sequence of requests to a fresh registry is a run of the map. The main
statement, `run_isLineMap`, puts this together with what a run of the map leaves: the chains are
what was installed and not removed, and no two handlers share an identity.

The registry refines the map when both show the same chains and agree on the next identity
(`Refines`). There is one lemma for each kind of request that this is kept, and the run is an
induction over the requests.
-/

namespace Interrupts

variable {W H C : Type}

/-! ## The registry refines the map -/

namespace Registry

/-- The registry and the map show the same handlers, and agree on the next identity. -/
structure Refines (r : Registry H) (m : LineMap H) : Prop where
  chain : r.chain = m.chain
  /-- The next identity is one more than the number issued, in a word. -/
  nextId : r.nextId = UInt64.ofNat (m.issued + 1)

theorem empty_refines : (empty : Registry H).Refines {} where
  chain := funext fun _ => chain_empty
  nextId := rfl

variable {r : Registry H} {m : LineMap H}

section Unmasking

variable [Controller C (StateM W)]

/-- Unmasking rearms a report, of which the abstract map says nothing. -/
theorem answer_unmask_refines (c : C) (irq : UInt8) (hr : r.Refines m) (s : Scene W H) :
    (r.unmaskLine (m := SceneM W H) c irq s).1.2.Refines m := by
  unfold unmaskLine
  rw [SceneM.bind_apply]
  generalize (Controller.lineCount (m := SceneM W H) c s).1 = lines
  generalize (Controller.lineCount (m := SceneM W H) c s).2 = s'
  by_cases hlines : lines ≤ irq.toNat
  · rw [if_pos hlines]
    exact hr
  · rw [if_neg hlines]
    cases r.line? irq with
    | none => exact hr
    | some l => exact ⟨r.chain_rearm.trans hr.chain, r.nextId_rearm.trans hr.nextId⟩

end Unmasking

variable [Logger (StateM W)] [LineHandler H (StateM W)]

/-- An installation is a push onto the line, or a refusal beyond the table. -/
theorem answer_install_refines (irq : UInt8) (h : H) (cpu : Option Nat) (hr : r.Refines m)
    (s : Scene W H) :
    ∃ reply r' m', (r.installLogged (m := SceneM W H) irq h cpu s).1 = (reply, r')
      ∧ (r.installLogged (m := SceneM W H) irq h cpu s).2.events = s.events
      ∧ LineMap.Step m (⟨.install irq h cpu, .installed reply, []⟩ : LineRecord H C) m'
      ∧ r'.Refines m' := by
  unfold installLogged
  rcases Nat.lt_or_ge irq.toNat 224 with hlt | hle
  · obtain ⟨r', hinstall, hnext, hchain⟩ := r.install_of_lt h cpu hlt
    rw [hinstall]
    refine ⟨_, r', m.push irq h cpu, rfl, rfl, ?_, ?_, ?_⟩
    · rw [hr.nextId]
      exact .install hlt
    · rw [hchain, hr.chain, hr.nextId]
      rfl
    · rw [hnext, hr.nextId]
      exact (UInt64.ofNat_add (m.issued + 1) 1).symm
  · rw [r.install_of_le h cpu hle]
    exact ⟨_, r, m, rfl, rfl, .refuse hle, hr⟩

/-- A removal takes out the entry with the identity, or keeps the chain where there is none. -/
theorem answer_remove_refines (irq : UInt8) (id : HandlerId) (hr : r.Refines m) (s : Scene W H) :
    ∃ reply r' m', (r.removeLogged (m := SceneM W H) irq id s).1 = (reply, r')
      ∧ (r.removeLogged (m := SceneM W H) irq id s).2.events = s.events
      ∧ LineMap.Step m (⟨.remove irq id, .removed reply, []⟩ : LineRecord H C) m'
      ∧ r'.Refines m' := by
  unfold removeLogged
  by_cases hex : ∃ e ∈ r.chain irq, e.id = id
  · obtain ⟨e, he, hid⟩ := hex
    obtain ⟨before, found, after, r', rfl, hsplit, hremove, hnext, hchain⟩ :=
      r.remove_of_mem he hid
    rw [hremove]
    rw [hr.chain] at hsplit hchain
    exact ⟨_, r', m.put irq (before ++ after), rfl, rfl, .remove hsplit, hchain,
      hnext.trans hr.nextId⟩
  · have habsent : ∀ e ∈ r.chain irq, e.id ≠ id := fun e he hid => hex ⟨e, he, hid⟩
    obtain ⟨error, hremove⟩ := r.remove_of_absent habsent
    rw [hremove]
    exact ⟨_, r, m, rfl, rfl, .keep (hr.chain ▸ habsent), hr⟩

variable [Controller C (StateM W)]

/-- **Every request is a step of the map.** -/
theorem answer_refines (request : LineRequest H C) (hr : r.Refines m) (w : W) :
    ∃ reply r' m', (r.answer request { world := w }).1 = (reply, r')
      ∧ LineMap.Step m ⟨request, reply, (r.answer request { world := w }).2.events⟩ m'
      ∧ r'.Refines m' := by
  cases request with
  | install irq h cpu =>
    obtain ⟨reply, r', m', hresult, hevents, hstep, hr'⟩ :=
      answer_install_refines irq h cpu hr ({ world := w } : Scene W H)
    refine ⟨.installed reply, r', m', congrArg (fun p => (LineReply.installed p.1, p.2)) hresult,
      ?_, hr'⟩
    rw [show (r.answer (.install irq h cpu : LineRequest H C) { world := w }).2.events = []
      from hevents]
    exact hstep
  | remove irq id =>
    obtain ⟨reply, r', m', hresult, hevents, hstep, hr'⟩ :=
      answer_remove_refines irq id hr ({ world := w } : Scene W H)
    refine ⟨.removed reply, r', m', congrArg (fun p => (LineReply.removed p.1, p.2)) hresult,
      ?_, hr'⟩
    rw [show (r.answer (.remove irq id : LineRequest H C) { world := w }).2.events = []
      from hevents]
    exact hstep
  | isInstalled irq id =>
    refine ⟨_, r, m, rfl, .look ?_, hr⟩
    rw [isInstalled, hr.chain, List.any_eq_true]
    exact exists_congr fun e => and_congr_right fun _ => beq_iff_eq
  -- a delivery asks the handlers and counts, and neither is in the abstract map
  | dispatch c vector f cpu =>
    obtain ⟨events, outcome, f', r', hresult, hevents, hdelivers, hchain, hid⟩ :=
      dispatch_delivers r c vector f cpu w
    refine ⟨.dispatched outcome f', r', m,
      congrArg (fun p => (LineReply.dispatched p.1 p.2.1, p.2.2)) hresult, ?_,
      hchain.trans hr.chain, hid.trans hr.nextId⟩
    rw [show (r.answer (.dispatch c vector f cpu) { world := w }).2.events = events from hevents]
    exact .deliver (hr.chain ▸ hdelivers)
  | mask c irq => exact ⟨_, r, m, rfl, .mask, hr⟩
  | unmask c irq => exact ⟨_, _, m, rfl, .unmask, answer_unmask_refines c irq hr _⟩

/-- **A run of the registry is a run of the map.** -/
theorem run_refines (requests : List (LineRequest H C)) (hr : r.Refines m) (w : W) :
    ∃ records r' w' m', r.run requests w = (records, r', w')
      ∧ records.map LineRecord.request = requests
      ∧ LineMap.Run m records m' ∧ r'.Refines m' := by
  induction requests generalizing r m w with
  | nil => exact ⟨[], r, w, m, rfl, rfl, .nil, hr⟩
  | cons request requests ih =>
    obtain ⟨reply, r', m', hanswer, hstep, hr'⟩ := answer_refines request hr w
    obtain ⟨records, r'', w'', m'', hrun, hrequests, hrest, hr''⟩ :=
      ih hr' (r.answer request { world := w }).2.world
    exact ⟨_, r'', w'', m'', run_cons (Prod.ext hanswer rfl) hrun,
      by rw [List.map_cons, hrequests], .cons hstep hrest, hr''⟩

/-- **The registry is a map from lines to lists of handlers**, for every sequence of requests with
fewer than `UInt64.size - 1` installations. It makes a run of `LineMap`, whose steps say what each
request does and replies; at the end a line has the handlers that were installed on it and not
removed, the newest first, no identity was handed out twice, none stands in two places, and the
lines that do not exist are empty and refuse a handler without any effect. -/
theorem run_isLineMap (requests : List (LineRequest H C)) (w : W)
    (hfit : requests.countP LineRequest.isInstall < UInt64.size - 1) :
    ∃ records r w' m, empty.run requests w = (records, r, w')
      ∧ records.map LineRecord.request = requests
      ∧ LineMap.Run {} records m ∧ r.Refines m
      ∧ r.chain = standing records
      ∧ ((installs records).map fun p => p.2.id).Nodup
      ∧ (∀ irq, ((r.chain irq).map HandlerEntry.id).Nodup)
      ∧ (∀ irq irq', ∀ e ∈ r.chain irq, ∀ e' ∈ r.chain irq', e.id = e'.id → irq = irq')
      ∧ (∀ irq : UInt8, 224 ≤ irq.toNat → r.chain irq = []
          ∧ ∀ h cpu (s : Scene W H), (r.answer (.install irq h cpu : LineRequest H C) s).1
            = (.installed (.error (.invalidLine irq)), r)) := by
  obtain ⟨records, r, w', m, hrun, hrequests, hmap, hr⟩ :=
    run_refines requests (empty_refines (H := H)) w
  -- Every identity was asked for by an installation, so that none has wrapped.
  have hn : m.issued < UInt64.size := by
    have := hmap.issued_le_countP
    rw [hrequests] at this
    simp only at this
    omega
  have hremembers : m.Remembers records := hmap.remembers LineMap.empty_remembers hn
  refine ⟨records, r, w', m, hrun, hrequests, hmap, hr, hr.chain.trans hremembers.chain,
    hremembers.nodup hn, ?_, ?_, ?_⟩
  · rw [hr.chain]
    exact hremembers.nodup_chain hn
  · rw [hr.chain]
    exact fun _ _ e he e' he' hid => hremembers.line_unique hn he he' hid
  · intro irq hle
    refine ⟨r.chain_of_le hle, fun h cpu s => ?_⟩
    unfold answer
    dsimp only
    unfold installLogged
    rw [r.install_of_le h cpu hle]
    rfl

section FixedAnswers

/-! Handlers with a fixed verdict, on a controller that always names the same line of sixteen, in a
world without anything in it. -/

local instance : Logger (StateM Unit) := ⟨fun _ _ => pure ()⟩

local instance : LineHandler Verdict (StateM Unit) :=
  ⟨Verdict.name, fun verdict _ f => pure (verdict, f)⟩

local instance : Controller UInt8 (StateM Unit) :=
  ⟨fun _ => "fixed", fun _ => pure 16, fun irq _ => pure (some irq), fun _ _ _ => pure (),
    fun _ _ => pure (), fun _ _ => pure ()⟩

/-- Two handlers are installed, a third is refused, the line is served, and the first is removed. -/
def fewRequests : List (LineRequest Verdict UInt8) :=
  [.install 3 .notMine none, .install 3 .handled (some 1), .install 224 .handled none,
    .dispatch 3 35 default 0, .remove 3 ⟨1⟩, .isInstalled 3 ⟨1⟩]

/-- Only the second handler still stands. -/
theorem run_isLineMap_fewRequests : fewRequests.countP LineRequest.isInstall = 3
    ∧ ∃ records r w' m, empty.run fewRequests () = (records, r, w')
      ∧ LineMap.Run {} records m ∧ r.Refines m
      ∧ r.chain 3 = [⟨⟨2⟩, some 1, .handled⟩] := by
  have hfit : fewRequests.countP LineRequest.isInstall = 3 := by decide
  refine ⟨hfit, ?_⟩
  obtain ⟨records, r, w', m, hrun, -, hmap, hr, hchain, -⟩ :=
    run_isLineMap fewRequests () (by rw [hfit]; decide)
  refine ⟨records, r, w', m, hrun, hmap, hr, ?_⟩
  rw [hchain, ← show (empty.run fewRequests ()).1 = records from congrArg Prod.fst hrun]
  rfl

end FixedAnswers

end Registry

end Interrupts
