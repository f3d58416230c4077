import Interrupts.Proofs.Registry.Chains
import Interrupts.Proofs.Registry.Requests

/-!
# What a delivery does

A delivery is a conversation: the controller is asked which line is meant and how many lines there
are, handlers of the line are asked one after the other, and the controller is told that the
delivery is over. `Delivers` says which conversations are right, given the chains: on a line that
exists, the handlers that serve the processor are asked in the order of the chain, up to and
including the first that claims the delivery, each with the frame the one before it left. The main
statement, `dispatch_delivers`, is that the registry has such a conversation for every delivery,
and that it changes no chain.
-/

namespace Interrupts

variable {W H C : Type}

/-! ## Asking handlers -/

/-- The frame is handed from each handler to the next. -/
def Threaded : Frame → List (Invocation H) → Frame → Prop
  | f, [], f' => f' = f
  | f, c :: calls, f' => c.given = f ∧ Threaded c.left calls f'

/-- **The handlers are asked until one claims**: the runs are those of the shortest part from the
front of the entries that ends with a claim, or of all entries when nobody claims. -/
structure Asks (irq : UInt8) (entries : List (HandlerEntry H)) (f : Frame)
    (calls : List (Invocation H)) (verdict : Verdict) (f' : Frame) : Prop where
  /-- The handlers that ran are the first ones, in order. -/
  inOrder : calls.map Invocation.handler <+: entries.map HandlerEntry.handler
  /-- Each was told the line. -/
  onLine : ∀ c ∈ calls, c.irq = irq
  /-- Each was given what the one before it left. -/
  threaded : Threaded f calls f'
  /-- A claim is the last answer and the only one. -/
  claimed : verdict = .handled → ∃ earlier last, calls = earlier ++ [last]
    ∧ last.verdict = .handled ∧ ∀ c ∈ earlier, c.verdict = .notMine
  /-- Without a claim everybody was asked and declined. -/
  exhausted : verdict = .notMine → calls.length = entries.length
    ∧ ∀ c ∈ calls, c.verdict = .notMine

namespace Asks

variable {irq : UInt8} {f f' : Frame} {entries : List (HandlerEntry H)}
  {calls : List (Invocation H)} {verdict : Verdict}

/-- With no handler left to ask, nobody claimed the delivery. -/
theorem nil : Asks irq ([] : List (HandlerEntry H)) f [] .notMine f where
  inOrder := List.prefix_refl _
  onLine := fun _ hc => absurd hc List.not_mem_nil
  threaded := rfl
  claimed := fun h => nomatch h
  exhausted := fun _ => ⟨rfl, fun _ hc => absurd hc List.not_mem_nil⟩

/-- The first handler claims, and nobody else is asked. -/
theorem claim (e : HandlerEntry H) (left : Frame) :
    Asks irq (e :: entries) f [⟨e.handler, irq, f, .handled, left⟩] .handled left where
  inOrder := ⟨entries.map HandlerEntry.handler, rfl⟩
  onLine := fun _ hc => (List.mem_singleton.mp hc) ▸ rfl
  threaded := ⟨rfl, rfl⟩
  claimed := fun _ => ⟨[], _, rfl, rfl, fun _ hc => absurd hc List.not_mem_nil⟩
  exhausted := fun h => nomatch h

/-- The first handler declines, and the others are asked with what it left. -/
theorem pass (e : HandlerEntry H) {left : Frame} (h : Asks irq entries left calls verdict f') :
    Asks irq (e :: entries) f (⟨e.handler, irq, f, .notMine, left⟩ :: calls) verdict f' where
  inOrder := (List.cons_prefix_cons).mpr ⟨rfl, h.inOrder⟩
  onLine := List.forall_mem_cons.mpr ⟨rfl, h.onLine⟩
  threaded := ⟨rfl, h.threaded⟩
  claimed := fun hv => by
    obtain ⟨earlier, last, hcalls, hlast, hearlier⟩ := h.claimed hv
    exact ⟨_ :: earlier, last, congrArg (_ :: ·) hcalls, hlast,
      List.forall_mem_cons.mpr ⟨rfl, hearlier⟩⟩
  exhausted := fun hv =>
    ⟨congrArg (· + 1) (h.exhausted hv).1, List.forall_mem_cons.mpr ⟨rfl, (h.exhausted hv).2⟩⟩

end Asks

/-! ## Conversations -/

/-- The outcome of a delivery on a line that exists. -/
def DispatchOutcome.ofVerdict (irq : UInt8) : Verdict → DispatchOutcome
  | .handled => .handled irq
  | .notMine => .unhandled irq

/-- **A right conversation about a delivery**, given the chains of the lines. -/
inductive Delivers (chain : UInt8 → List (HandlerEntry H)) (vector : UInt8) (cpu : Nat)
    (f : Frame) : List (LineEvent H) → DispatchOutcome → Frame → Prop
  /-- The controller names no line. -/
  | spurious : Delivers chain vector cpu f [.named vector none, .ended vector none] .spurious f
  /-- The line is none of the controller's, or none of the registry's. -/
  | outOfRange {irq : UInt8} {lines shown : Nat} (h : min lines 224 ≤ irq.toNat) :
      Delivers chain vector cpu f
        [.named vector (some irq), .counted lines, .counted shown, .ended vector (some irq)]
        (.outOfRange irq) f
  /-- The handlers of the line that serve the processor are asked. -/
  | served {irq : UInt8} {lines : Nat} {calls : List (Invocation H)} {verdict : Verdict}
      {f' : Frame} (h : irq.toNat < min lines 224)
      (asks : Asks irq ((chain irq).filter fun e => e.serves cpu) f calls verdict f') :
      Delivers chain vector cpu f
        ([.named vector (some irq), .counted lines] ++ calls.map .served
          ++ [.ended vector (some irq)])
        (.ofVerdict irq verdict) f'

namespace Registry

variable [LineHandler H (StateM W)]

/-! ## The registry's conversations -/

/-- **Walking a chain asks its handlers until one claims.** -/
theorem askChain_asks (irq : UInt8) (cpu : Nat) (entries : List (HandlerEntry H)) (f : Frame)
    (s : Scene W H) :
    ∃ calls,
      (askChain (m := SceneM W H) irq cpu entries f s).2.events = s.events ++ calls.map .served
      ∧ Asks irq (entries.filter fun e => e.serves cpu) f calls
          (askChain (m := SceneM W H) irq cpu entries f s).1.1
          (askChain (m := SceneM W H) irq cpu entries f s).1.2 := by
  induction entries generalizing f s with
  | nil => exact ⟨[], (List.append_nil _).symm, Asks.nil⟩
  | cons e entries ih =>
    unfold askChain
    by_cases hserves : e.serves cpu = true
    · rw [if_pos hserves, SceneM.bind_apply, List.filter_cons_of_pos (by exact hserves)]
      rcases hanswer : (LineHandler.serve (m := SceneM W H) e.handler irq f s).1
        with ⟨verdict, left⟩
      have hevents : (LineHandler.serve (m := SceneM W H) e.handler irq f s).2.events
          = s.events ++ [.served ⟨e.handler, irq, f, verdict, left⟩] :=
        congrArg (fun answer : Verdict × Frame =>
          s.events ++ [.served ⟨e.handler, irq, f, answer.1, answer.2⟩]) hanswer
      -- a handler that claims ends the chain; otherwise the next one gets the frame as it was left
      cases verdict with
      | handled => exact ⟨[_], hevents, Asks.claim e left⟩
      | notMine =>
        obtain ⟨calls, hcalls, hasks⟩ :=
          ih left (LineHandler.serve (m := SceneM W H) e.handler irq f s).2
        refine ⟨_ :: calls, ?_, hasks.pass e⟩
        rw [hcalls, hevents, List.append_assoc]
        rfl
    · rw [if_neg hserves, List.filter_cons_of_neg (by exact hserves)]
      exact ih f s

variable [Logger (StateM W)]

/-- A delivery on a line that exists asks the handlers of that line, and changes no chain. -/
theorem runChain_asks (r : Registry H) (irq vector : UInt8) (f : Frame) (cpu : Nat)
    (s : Scene W H) :
    ∃ calls verdict f' r',
      (r.runChain (m := SceneM W H) irq vector f cpu s).1 = (.ofVerdict irq verdict, f', r')
      ∧ (r.runChain (m := SceneM W H) irq vector f cpu s).2.events = s.events ++ calls.map .served
      ∧ Asks irq ((r.chain irq).filter fun e => e.serves cpu) f calls verdict f'
      ∧ r'.chain = r.chain ∧ r'.nextId = r.nextId := by
  obtain ⟨calls, hevents, hasks⟩ := askChain_asks irq cpu (r.chain irq) f s
  unfold runChain
  rw [SceneM.bind_apply]
  obtain ⟨⟨verdict, f'⟩, s', hs⟩ : ∃ answer s',
      askChain (m := SceneM W H) irq cpu (r.chain irq) f s = (answer, s') :=
    ⟨_, _, rfl⟩
  rw [hs] at hevents hasks ⊢
  cases verdict with
  | handled =>
    exact ⟨calls, .handled, f', _, rfl, hevents, hasks, r.chain_countDelivery,
      r.nextId_countDelivery⟩
  | notMine =>
    refine ⟨calls, .notMine, f', (r.countDelivery irq).countUnhandled irq, ?_, ?_, hasks,
      by simp, by simp⟩
    · cases r.isReported irq <;> rfl
    · cases r.isReported irq <;> exact hevents

variable [Controller C (StateM W)]

/-- Between the controller's answer and the end of the delivery, the registry asks for the number
of lines and lets the handlers run. -/
theorem serveNamed_delivers (r : Registry H) (c : C) (vector : UInt8) (irq? : Option UInt8)
    (f : Frame) (cpu : Nat) (s : Scene W H) :
    ∃ events outcome f' r',
      (r.serveNamed (m := SceneM W H) c vector irq? f cpu s).1 = (outcome, f', r')
      ∧ (r.serveNamed (m := SceneM W H) c vector irq? f cpu s).2.events = s.events ++ events
      ∧ Delivers r.chain vector cpu f (.named vector irq? :: events ++ [.ended vector irq?])
          outcome f'
      ∧ r'.chain = r.chain ∧ r'.nextId = r.nextId := by
  cases irq? with
  | none => exact ⟨[], .spurious, f, r, rfl, (List.append_nil _).symm, .spurious, rfl, rfl⟩
  | some irq =>
    unfold serveNamed
    dsimp only
    rw [SceneM.bind_apply]
    generalize hlines : (Controller.lineCount (m := SceneM W H) c s).1 = lines
    generalize hs' : (Controller.lineCount (m := SceneM W H) c s).2 = s'
    have hevents : s'.events = s.events ++ [.counted lines] := by rw [← hs', ← hlines]; rfl
    by_cases hrange : min lines lineCount ≤ irq.toNat
    · rw [if_pos hrange]
      refine ⟨[.counted lines, .counted (Controller.lineCount (m := SceneM W H) c s').1],
        .outOfRange irq, f, r, rfl, ?_, .outOfRange hrange, rfl, rfl⟩
      show s'.events ++ [_] = _
      rw [hevents, List.append_assoc]
      rfl
    · rw [if_neg hrange]
      obtain ⟨calls, verdict, f', r', hresult, hcalls, hasks, hchain, hid⟩ :=
        runChain_asks r irq vector f cpu s'
      refine ⟨.counted lines :: calls.map .served, _, f', r', hresult, ?_,
        .served (Nat.lt_of_not_le hrange) hasks, hchain, hid⟩
      rw [hcalls, hevents, List.append_assoc]
      rfl

/-- **The registry has a right conversation for every delivery**, whatever the handlers and the
controller do, and changes no chain. -/
theorem dispatch_delivers (r : Registry H) (c : C) (vector : UInt8) (f : Frame) (cpu : Nat)
    (w : W) :
    ∃ events outcome f' r',
      (r.dispatch (m := SceneM W H) c vector f cpu { world := w }).1 = (outcome, f', r')
      ∧ (r.dispatch (m := SceneM W H) c vector f cpu { world := w }).2.events = events
      ∧ Delivers r.chain vector cpu f events outcome f'
      ∧ r'.chain = r.chain ∧ r'.nextId = r.nextId := by
  unfold dispatch
  rw [SceneM.bind_apply]
  -- the controller is asked once, and its answer decides both the line and the acknowledgment
  generalize hnamed : (Controller.currentIrq (m := SceneM W H) c vector { world := w }).1 = irq?
  generalize hs : (Controller.currentIrq (m := SceneM W H) c vector { world := w }).2 = s
  have hevents : s.events = [.named vector irq?] := by rw [← hs, ← hnamed]; rfl
  obtain ⟨events, outcome, f', r', hresult, hserved, hdelivers, hframe⟩ :=
    serveNamed_delivers r c vector irq? f cpu s
  refine ⟨_, outcome, f', r', hresult, ?_, hdelivers, hframe⟩
  show (r.serveNamed (m := SceneM W H) c vector irq? f cpu s).2.events ++ [_] = _
  rw [hserved, hevents]
  rfl

end Registry

end Interrupts
