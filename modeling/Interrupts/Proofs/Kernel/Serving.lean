import Interrupts.Kernel.Entry
import Interrupts.Proofs.Kernel.Primitives

/-!
# The conduct of the entry path

Between the arrival of a vector and the end of its delivery the kernel looks up the executing
processor, asks the controller in charge for the line, and lets handlers run; for an exception it
carries out what the handler does to the table, and perhaps prints a report. All of this keeps to a
conduct, as long as the 8259 pair may be asked which lines are in service.
-/

namespace Interrupts.Conduct

open Boot

variable {X : Surroundings} [Behaviour X] {c : Conduct X} {k : Kernel X}

/-! ## Handlers -/

/-- A handler is run. The tick counts, so it needs a conduct that allows this. -/
theorem obeys_serve {h : KernelHandler X} (hcount : c.mayCount ∨ ∃ d, h = .device d) (irq : UInt8)
    (f : Frame) : c.discipline.Obeys k (LineHandler.serve (m := Boot X) h irq f) := by
  cases h with
  | tick t =>
    have hcount : c.mayCount := hcount.resolve_right fun ⟨_, h⟩ => (nomatch h)
    exact (obeys_serveTick hcount t).bind fun _ _ => .pure _
  | device d => exact obeys_onHardware (c.serve d irq f)

/-- The entries of a chain are asked until one claims the delivery. -/
theorem obeys_askChain {entries : List (HandlerEntry (KernelHandler X))}
    (hcount : c.mayCount ∨ ∀ e ∈ entries, ∃ d, e.handler = .device d) (irq : UInt8) (cpu : Nat)
    (f : Frame) : c.discipline.Obeys k (Registry.askChain (m := Boot X) irq cpu entries f) := by
  induction entries generalizing f k with
  | nil => exact .pure _
  | cons e entries ih =>
    have hfirst := hcount.imp_right fun h => h e List.mem_cons_self
    have hrest := hcount.imp_right fun h => (List.forall_mem_cons.mp h).2
    refine .ite (fun _ => (obeys_serve hfirst irq f).bind ?_) fun _ => ih hrest f
    rintro ⟨verdict, f'⟩ k' - -
    cases verdict with
    | handled => exact .pure _
    | notMine => exact ih hrest f'

/-- A delivery that nobody claims may be reported. -/
theorem obeys_runChain {r : Registry (KernelHandler X)} {irq : UInt8}
    (hcount : c.mayCount ∨ ∀ e ∈ r.chain irq, ∃ d, e.handler = .device d) (vector : UInt8)
    (f : Frame) (cpu : Nat) :
    c.discipline.Obeys k (r.runChain (m := Boot X) irq vector f cpu) := by
  refine (obeys_askChain hcount irq cpu f).bind ?_
  rintro ⟨verdict, f'⟩ k' - -
  cases verdict with
  | handled => exact .pure _
  | notMine => exact .ite (fun _ => (obeys_emit _ _).bind fun _ _ => .pure _) fun _ => .pure _

/-! ## Controllers -/

/-- Every controller knows its number of lines. -/
theorem obeys_lineCount (a : ActiveController X) :
    c.discipline.Obeys k (Controller.lineCount (m := Boot X) a) := by
  cases a with
  | pic => exact .pure _
  | apic a => exact .pure _
  | external e => exact obeys_askHardware _

/-- The 8259 pair is asked for the lines in service, and answers. -/
theorem obeys_lineInService (hselect : ∀ port, c.mayWrite port Pic.readInService)
    (p : Pic MachinePorts) : c.discipline.Obeys k (p.lineInService (m := Boot X)) := by
  refine .bind ?_ fun _ _ => .pure _
  exact (obeys_write8 _ (hselect _)).bind fun _ _ => (obeys_write8 _ (hselect _)).bind fun _ _ =>
    (obeys_read8 _ _).bind fun _ _ => (obeys_read8 _ _).bind fun _ _ => .pure _

/-- The pair is not even asked about a vector that is none of its own. -/
theorem obeys_picIrq (hselect : ∀ port, c.mayWrite port Pic.readInService) (p : Pic MachinePorts)
    (vector : UInt8) : c.discipline.Obeys k (p.currentIrq (m := Boot X) vector) := by
  unfold Pic.currentIrq
  cases p.lineForVector vector with
  | none => exact .pure _
  | some line =>
    refine (obeys_lineInService hselect p).bind ?_
    rintro (_ | irq) k' - -
    · exact .ite (fun _ => (obeys_emit _ _).bind fun _ _ => .pure _) fun _ => .pure _
    · exact .pure _

/-- The registers of the vectors in service lie in a page. -/
theorem holds_serviceRegister {w : Window} (h : w.IsPage) {word : Nat}
    (hword : word < LocalApic.serviceWords) : w.Holds (LocalApic.serviceRegister word) := by
  refine h.holds ?_ ?_ <;> revert hword <;> revert word <;> decide

/-- The words of the vectors in service are read one by one, up to the one that names a line. -/
theorem obeys_inServiceFrom {a : LocalApic Window} (h : c.MayStop k ∨ a.window.IsPage)
    (irqBase : UInt8) (lines : Nat) (left word : Nat)
    (hword : left + word = LocalApic.serviceWords) :
    c.discipline.Obeys k (a.inServiceFrom (m := Boot X) irqBase lines left word) := by
  induction left generalizing k word with
  | zero => exact .pure _
  | succ left ih =>
    refine (obeys_read32 (h.imp_right fun h => holds_serviceRegister h ?_)).bind ?_
    · omega
    · intro bits k' _ hkeeps
      cases LocalApic.lineOfWord irqBase lines word bits with
      | some line => exact .pure _
      | none => exact ih (h.imp_left fun h => h.of_keeps hkeeps) (word + 1) (by omega)

/-- A calm kernel's controller in charge has a page for its window. -/
theorem page_of_active {a : ApicController Window Window} (h : k.active = some (.apic a)) :
    c.MayStop k ∨ a.localApic.window.IsPage := by
  by_cases hcalm : c.steady ∧ k.Calm
  · exact .inr (hcalm.2.active a h)
  · exact .inl hcalm

/-- **The controller in charge is asked for the line.** -/
theorem obeys_currentIrq (hselect : ∀ port, c.mayWrite port Pic.readInService)
    {a : ActiveController X} (h : k.active = some a) (vector : UInt8) :
    c.discipline.Obeys k (Controller.currentIrq (m := Boot X) a vector) := by
  cases a with
  | pic => exact .look rfl (obeys_picIrq hselect _ vector)
  | apic a => exact obeys_inServiceFrom (page_of_active h) _ _ _ _ rfl
  | external e => exact obeys_carryOut (c.externalIrq e vector)

/-- **The line is served**, whatever the controller named. -/
theorem obeys_serveNamed {r : Registry (KernelHandler X)} {irq? : Option UInt8}
    (hcount : c.mayCount ∨ ∀ irq, irq? = some irq → ∀ e ∈ r.chain irq, ∃ d, e.handler = .device d)
    (a : ActiveController X) (vector : UInt8) (f : Frame) (cpu : Nat) :
    c.discipline.Obeys k (r.serveNamed (m := Boot X) a vector irq? f cpu) := by
  cases irq? with
  | none => exact .pure _
  | some irq =>
    exact (obeys_lineCount a).bind fun _ _ => .ite
      (fun _ => (obeys_lineCount a).bind fun _ _ => (obeys_emit _ _).bind fun _ _ => .pure _)
      fun _ => obeys_runChain (hcount.imp_right fun h => h irq rfl) vector f cpu

/-! ## Exceptions -/

/-- A handler of exceptions may change the table that it was found in. -/
theorem obeys_installHere (v : UInt8) (h : X.FaultCode) :
    c.discipline.Obeys k (ExceptionTable.installHere (m := Boot X) v h) := by
  refine .look rfl ?_
  cases k.exceptions.install v h with
  | error e => exact (obeys_emit _ _).bind fun _ _ => .pure _
  | ok t =>
    exact .bind (.step rfl ⟨c.refl _, .refl _, .inr ⟨rfl, rfl⟩, rfl⟩) fun _ _ =>
      (obeys_emit _ _).bind fun _ _ => .pure _

/-- It may also take handlers out of it. -/
theorem obeys_removeHere (v : UInt8) :
    c.discipline.Obeys k (ExceptionTable.removeHere X.FaultCode (m := Boot X) v) := by
  refine .look rfl ?_
  cases k.exceptions.remove v with
  | error e => exact .pure _
  | ok t => exact .bind (.step rfl ⟨c.refl _, .refl _, .inr ⟨rfl, rfl⟩, rfl⟩) fun _ _ => .pure _

/-- What a handler of exceptions does, step by step. -/
theorem obeys_reaction (r : Reaction X.FaultCode) :
    c.discipline.Obeys k (ExceptionTable.carryOut (m := Boot X) r) := by
  induction r generalizing k with
  | decide action frame => exact .pure _
  | install v h next ih => exact (obeys_installHere v h).bind fun _ _ => ih _
  | remove v next ih => exact (obeys_removeHere v).bind fun _ _ => ih _

theorem obeys_reportFatal (hstops : ∀ r, c.alsoStops (.fault (.exception r))) (r : FatalReport)
    (f : Frame) : c.discipline.Obeys k (reportFatal (X := X) r f) :=
  (obeys_logAll _).bind fun _ _ => (obeys_emit _ _).bind fun _ _ =>
    .throw ⟨Kernel.Keeps.refl c _, .inr (hstops r)⟩

/-- **An exception is routed**, and reported when nobody resolves it. -/
theorem obeys_handle (hstops : ∀ r, c.alsoStops (.fault (.exception r))) (f : Frame) (cpu : Nat) :
    c.discipline.Obeys k (ExceptionTable.handle X.FaultCode (m := Boot X) f cpu reportFatal) := by
  refine .bind (.look rfl ?_ : c.discipline.Obeys k
    (ExceptionTable.dispatch X.FaultCode (m := Boot X) f cpu)) ?_
  · cases k.exceptions.claimant f.vectorByte with
    | error reason => exact .pure _
    | ok h =>
      refine (obeys_reaction _).bind ?_
      rintro ⟨action, f'⟩ k' - -
      cases action <;> exact .pure _
  · rintro ⟨outcome, f'⟩ k' - -
    cases outcome with
    | handled => exact .pure _
    | fatal r => exact (obeys_reportFatal hstops r f').bind fun _ _ => .pure _

/-! ## The whole path -/

/-- The 8259 pair is told that a delivery is over. -/
theorem obeys_acknowledge (hout : ∀ port, c.mayWrite port Pic.eoiCommand) (p : Pic MachinePorts)
    (vector : UInt8) (irq? : Option UInt8) :
    c.discipline.Obeys k (p.acknowledge (m := Boot X) vector irq?) := by
  cases irq? with
  | some irq =>
    exact .ite (fun _ => (obeys_write8 _ (hout _)).bind fun _ _ => obeys_write8 _ (hout _))
      fun _ => obeys_write8 _ (hout _)
  | none =>
    unfold Pic.acknowledge
    cases p.lineForVector vector with
    | some line => exact .ite (fun _ => obeys_write8 _ (hout _)) fun _ => .pure _
    | none => exact .pure _

/-- Ending a delivery, where the commands and stores that end one are allowed. -/
theorem obeys_eoi (hout : ∀ port, c.mayWrite port Pic.eoiCommand)
    (hstore : ∀ address value, c.mayStore address value) {a : ActiveController X}
    (h : k.active = some a) (vector : UInt8) (irq? : Option UInt8) :
    c.discipline.Obeys k (Controller.eoi (m := Boot X) a vector irq?) := by
  cases a with
  | pic => exact .look rfl (obeys_acknowledge hout _ vector irq?)
  | apic a =>
    refine .ite (fun _ => obeys_write32 ((page_of_active h).imp_right fun hpage => ?_)
      (hstore _ _)) fun _ => .pure _
    exact hpage.holds (by decide) (by decide)
  | external e => exact obeys_carryOut (c.externalEoi e vector irq?)

/-- **A delivery is dispatched** and ended. -/
theorem obeys_dispatchIrq (hcount : c.mayCount)
    (hselect : ∀ port, c.mayWrite port Pic.readInService)
    (hout : ∀ port, c.mayWrite port Pic.eoiCommand)
    (hstore : ∀ address value, c.mayStore address value) (f : Frame) :
    c.discipline.Obeys k (dispatchIrq (X := X) f) := by
  refine .look rfl ?_
  cases hactive : k.active with
  | none => exact (obeys_emit _ _).bind fun _ _ => .pure _
  | some a =>
    refine obeys_currentCpu.bind fun {_ k₀} _ hkeeps₀ => .look rfl ?_
    have hactive₀ := hkeeps₀.active.trans hactive
    refine .bind (.bind ?_ fun _ _ => .pure _) fun _ _ =>
      .bind (.step rfl ⟨c.refl _, .refl _, .inl hcount, rfl⟩) fun _ _ => .pure _
    exact (obeys_currentIrq hselect hactive₀ _).bind fun _ hkeeps₁ =>
      (obeys_serveNamed (.inl hcount) a _ f _).bind fun _ hkeeps₂ =>
        (obeys_eoi hout hstore
          (hkeeps₂.active.trans (hkeeps₁.active.trans hactive₀)) _ _).bind fun _ _ => .pure _

/-- **The entry path without a delivery**: for an exception, for the spurious vector, and before a
controller is in charge. -/
theorem obeys_enter_of_idle {f : Frame}
    (hstops : Vectors.route f.vectorByte = .exception → ∀ r, c.alsoStops (.fault (.exception r)))
    (h : Vectors.route f.vectorByte ≠ .irq ∨ k.active = none) :
    c.discipline.Obeys k (enter (X := X) f) := by
  unfold enter
  cases hroute : Vectors.route f.vectorByte with
  | exception =>
    exact obeys_currentCpu.bind fun _ _ =>
      (obeys_handle (hstops hroute) f _).bind fun _ _ => .pure _
  | spurious => exact .pure _
  | irq =>
    -- Nobody is in charge, and the dispatcher only warns.
    have hactive : k.active = none := h.resolve_left fun hne => hne hroute
    refine .bind (.look rfl ?_ : c.discipline.Obeys k (dispatchIrq (X := X) f)) fun _ _ => .pure _
    rw [hactive]
    exact (obeys_emit _ _).bind fun _ _ => .pure _

end Interrupts.Conduct
