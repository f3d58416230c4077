import Interrupts.Kernel.Boot
import Interrupts.Proofs.Kernel.Primitives
import Interrupts.Proofs.Processor.Sequence
import Interrupts.Proofs.Processor.Settling

/-!
# Launching processors in the kernel

The kernel's own hardware side of bring-up sends commands through the Local APIC and waits on the
interval timer. Each of its operations is one move in the sense of `Track`: nothing of the processor
table changes while it lasts, except that processors which come online raise their flags. So the
kernel's bring-up makes a course, too, and when no processor was in flight before, none is when the
trampoline page is given back: the check that would stop the kernel there never does.
-/

namespace Interrupts

open Boot

variable {X : Surroundings} [Behaviour X]

/-- The stop is not that the trampoline page is still in use. -/
def Stop.NotInUse (e : Stop) : Prop :=
  ∀ error, e ≠ .fault (.trampolineInUse error)

theorem Stop.IsMishap.notInUse {e : Stop} (h : e.IsMishap) : e.NotInUse := by
  rintro error rfl
  exact h

/-! ## The operations -/

namespace Conduct

variable {c : Conduct X} {k : Kernel X}

/-- The conduct allows all stores, and mishaps. -/
structure Unhindered (c : Conduct X) : Prop where
  store : ∀ address value, c.mayStore address value
  unsteady : ¬c.steady

/-- The conduct allows all writes, too. -/
structure Lenient (c : Conduct X) : Prop extends Unhindered c where
  write : ∀ port value, c.mayWrite port value

theorem free_lenient (alsoStops : Stop → Prop) : (free X False alsoStops).Lenient where
  store := fun _ _ => trivial
  unsteady := fun h => h
  write := fun _ _ => trivial

theorem Unhindered.mayStop (h : c.Unhindered) (k : Kernel X) : c.MayStop k :=
  fun hsteady => h.unsteady hsteady.1

/-- **Registers and ports may be used.** -/
theorem Lenient.serves (hc : c.Lenient) (window : Window) (ports : MachinePorts) :
    c.discipline.Serves window ports where
  read32 _ k := obeys_read32 (.inl (hc.mayStop k))
  read8 port _ := obeys_read8 ports port
  write8 _ _ _ := obeys_write8 ports (hc.write _ _)
  stalled k := ⟨c.discipline.refl k, .inl ⟨hc.mayStop k, trivial⟩⟩

variable (hc : c.Unhindered)

include hc

theorem obeys_read (a : LocalApic Window) (offset : UInt64) :
    c.discipline.Obeys k (a.read (m := Boot X) offset) :=
  obeys_read32 (.inl (hc.mayStop k))

theorem obeys_write (a : LocalApic Window) (offset : UInt64) (value : UInt32) :
    c.discipline.Obeys k (a.write (m := Boot X) offset value) :=
  obeys_write32 (.inl (hc.mayStop k)) (hc.store _ _)

/-- **A command is sent and waited for**: two stores, and looks at the register until it is
accepted. -/
theorem obeys_send (a : LocalApic Window) (command : IpiCommand) (budget : Budget) :
    c.discipline.Obeys k (a.send (m := Boot X) command budget) := by
  have haccepted (k : Kernel X) :
      c.discipline.Obeys k (a.commandAccepted (m := Boot X)) :=
    (obeys_read hc a _).bind fun _ _ => .pure _
  refine (obeys_write hc a _ _).bind fun _ _ => (obeys_write hc a _ _).bind fun _ _ => ?_
  refine (Discipline.Obeys.wait haccepted (fun _ => .pure _) budget _).bind ?_
  rintro (timeout | n) k' - -
  · exact (obeys_emit _ _).bind fun _ _ => .pure _
  · exact .pure _

/-- A command to an id that no command can name is not sent. -/
theorem obeys_sendInit (l : Launcher Window MachinePorts) (id : UInt32) :
    c.discipline.Obeys k (l.sendInit (m := Boot X) id) := by
  unfold Launcher.sendInit
  cases Launcher.destination? id with
  | none => exact .pure _
  | some target => exact (obeys_send hc _ _ _).bind fun _ _ => .pure _

theorem obeys_sendStartup (l : Launcher Window MachinePorts) (id : UInt32) (page : UInt8) :
    c.discipline.Obeys k (l.sendStartup (m := Boot X) id page) := by
  unfold Launcher.sendStartup
  cases Launcher.destination? id with
  | none => exact .pure _
  | some target => exact (obeys_send hc _ _ _).bind fun _ _ => .pure _

/-- A processor gets a stack and its parameters. -/
theorem obeys_prepare (l : Launcher Window MachinePorts) (index : Nat) (id : UInt32) :
    c.discipline.Obeys k (l.prepare (m := Boot X) index id) := by
  refine .bind (?_ : c.discipline.Obeys k (Launcher.allocateStack (Boot X))) ?_
  · refine (obeys_onHardware (c.allocate _)).bind ?_
    rintro (_ | base) k' - -
    · exact .pure _
    · exact (obeys_addWord64 (.inl (hc.mayStop k'))).bind fun _ _ => .pure _
  · rintro (e | top) k' - -
    · exact .pure _
    · exact (obeys_stepHardware fun _ => c.place _ _ _).bind fun _ _ => .pure _

/-- The template of the trampoline is only looked at. -/
theorem obeys_check (image : TrampolineImage) :
    c.discipline.Obeys k (Trampoline.check (m := Boot X) image) := by
  unfold Trampoline.check
  cases Trampoline.checkImage image.bytes.length with
  | error e => exact .pure _
  | ok _ => exact (obeys_addWord64 (.inl (hc.mayStop k))).bind fun _ _ => .pure _

omit hc

/-- Mapping the page is the business of the paging code, and so is unmapping it. -/
theorem obeys_identityMap (p : KernelPaging X) (start length : UInt64) :
    c.discipline.Obeys k (Paging.identityMap (m := Boot X) p start length) := by
  cases p with
  | direct d => exact .pure _
  | registered code => exact obeys_askHardware _

theorem obeys_unmap (p : KernelPaging X) (start length : UInt64) :
    c.discipline.Obeys k (Paging.unmap (m := Boot X) p start length) := by
  cases p with
  | direct d => exact .pure _
  | registered code => exact obeys_askHardware _

end Conduct

/-! ## The kernel's bring-up is a course -/

namespace Boot

/-- The kernel's table; its operations stop in mishaps only. -/
def track (X : Surroundings) : Track Stop (Kernel X) where
  table := Kernel.processors
  notes _ _ _ := True
  notes_nil := fun _ => trivial
  notes_append := fun _ _ => trivial
  stops := Stop.IsMishap

/-- An operation that keeps to the free conduct is one move. -/
theorem oneMove {α : Type} {x : Boot X α} {act : α → ApAct}
    (h : ∀ k, (Conduct.free X False fun _ => False).discipline.Obeys k x) :
    (track X).OneMove x act where
  returns := fun hrun => ⟨((h _).returns hrun).processors, trivial⟩
  stops := fun hrun => ((h _).stops hrun).2.elim (fun hmishap => hmishap.2) False.elim

/-- **Bring-up can be followed through the kernel.** -/
def tracked : Tracked (Launcher Window MachinePorts) Stop (Kernel X) where
  toTrack := track X
  get := fun _ => rfl
  store := fun _ _ _ => ⟨_, rfl, rfl, trivial⟩
  line := fun _ _ => oneMove fun _ => Conduct.obeys_emit _ _
  prepare := fun l i id => oneMove fun _ =>
    Conduct.obeys_prepare (Conduct.free_lenient _).toUnhindered l i id
  sendInit := fun l id => oneMove fun _ =>
    Conduct.obeys_sendInit (Conduct.free_lenient _).toUnhindered l id
  sendStartup := fun l id page =>
    oneMove fun _ => Conduct.obeys_sendStartup (Conduct.free_lenient _).toUnhindered l id page
  delay := fun l _ => oneMove fun k =>
    ((Conduct.free_lenient _).serves l.localApic.window l.ports).obeys_pollDelay _ _ k
  relax := fun _ => oneMove fun _ => .pure _

/-! ## The trampoline is free -/

/-- **The discipline of quiet**: when nothing is in flight now, nothing is in flight later, and
nothing stops the kernel because of the trampoline page. -/
def quiet (X : Surroundings) : Discipline Stop (Kernel X) where
  keeps k k' := k.processors.Quiet → k'.processors.Quiet
  stops k e _ := k.processors.Quiet → e.NotInUse
  refl := fun _ h => h
  trans := fun h h' hquiet => h' (h hquiet)
  stops_of_keeps := fun h hstops hquiet => hstops (h hquiet)

variable {k : Kernel X}

/-- What only raises flags keeps quiet. -/
theorem quiet_of_conduct {α : Type} {x : Boot X α}
    (h : (Conduct.free X False Stop.NotInUse).discipline.Obeys k x) : (quiet X).Obeys k x where
  returns := fun hrun hquiet => (h.returns hrun).processors.quiet hquiet
  stops := fun hrun _ =>
    (h.stops hrun).2.elim (fun hmishap => Stop.IsMishap.notInUse hmishap.2) fun he => he

omit [Behaviour X] in
/-- Nothing is asked of a kernel with a processor in flight. -/
theorem quiet_of_busy {α : Type} (h : ¬k.processors.Quiet) (x : Boot X α) :
    (quiet X).Obeys k x where
  returns := fun _ hquiet => absurd hquiet h
  stops := fun _ hquiet => absurd hquiet h

theorem quiet_log (level : Level) (text : String) :
    (quiet X).Obeys k (log level text : Boot X Unit) :=
  quiet_of_conduct (Conduct.obeys_emit level text)

theorem quiet_fatal {α : Type} {fault : Fault} (h : Stop.NotInUse (.fault fault)) :
    (quiet X).Obeys k (fatal fault : Boot X α) :=
  (quiet_log _ _).bind fun _ _ => .throw fun _ => h

/-- **The kernel's bring-up keeps quiet.** -/
theorem quiet_run (l : Launcher Window MachinePorts) (cfg : BringUpConfig) :
    (quiet X).Obeys k (BringUp.run l cfg) where
  returns := fun hrun hquiet => by
    obtain ⟨ms, -, hcourse⟩ := tracked.run_course hrun
    exact hcourse.quiet hquiet
  -- A run that stops may leave a processor in flight, but it stops in a mishap.
  stops := fun hrun _ => Stop.IsMishap.notInUse (tracked.run_stops hrun)

/-! ## The way there and back -/

theorem quiet_discoverHere (boot : UInt32) (others : List UInt32) :
    (quiet X).Obeys k (ProcessorTable.discoverHere boot others : Boot X Nat) := by
  refine .look rfl (.bind (.step rfl fun hquiet => hquiet.discover boot others) fun _ _ => ?_)
  exact (quiet_of_conduct (Conduct.obeys_logAll _)).bind fun _ _ => .pure _

/-- The page of the trampoline is mapped and filled, or the attempt is logged; no processor is in
flight meanwhile. -/
theorem quiet_installTrampoline (paging : KernelPaging X) :
    (quiet X).Obeys k (installTrampoline paging) := by
  unfold installTrampoline
  dsimp only
  cases Trampoline.checkImage (Behaviour.image X).bytes.length with
  | error e => exact .pure _
  | ok _ =>
    refine (quiet_of_conduct (Conduct.obeys_identityMap _ _ _)).bind ?_
    rintro (e | _) k' - -
    · exact (quiet_log _ _).bind fun _ _ => .pure _
    · refine (quiet_of_conduct
        (Conduct.obeys_check (Conduct.free_lenient _).toUnhindered _)).bind ?_
      rintro (e | _) k'' - -
      · exact .pure _
      · exact (quiet_of_conduct (Conduct.obeys_stepHardware fun _ => trivial)).bind fun _ _ =>
          (quiet_log _ _).bind fun _ _ => .pure _

/-- When it is taken back, a page that cannot be unmapped is only logged. -/
theorem quiet_removeTrampoline (paging : KernelPaging X) :
    (quiet X).Obeys k (removeTrampoline paging) := by
  refine (quiet_of_conduct (Conduct.obeys_unmap _ _ _)).bind ?_
  rintro (e | _) k' - -
  · exact quiet_log _ _
  · exact .pure _

/-- What the processors have in common is read off the running one. -/
theorem quiet_launchTemplate : (quiet X).Obeys k (launchTemplate (X := X)) := by
  refine (quiet_of_conduct (Conduct.obeys_askHardware _)).bind fun {root k'} _ _ => ?_
  dsimp only
  cases Trampoline.checkPageTables (root &&& pageTableMask) with
  | error e => exact quiet_fatal fun _ h => nomatch h
  | ok _ => exact (quiet_of_conduct (Conduct.obeys_askHardware _)).bind fun _ _ => .pure _

/-- **The check after bring-up is met**: nothing is in flight when it is made. -/
theorem quiet_launchAll (cfg : Config) (paging : KernelPaging X) (apic : LocalApic Window)
    (blockAddress : UInt64) : (quiet X).Obeys k (launchAll cfg paging apic blockAddress) := by
  refine quiet_launchTemplate.bind fun _ _ => (quiet_run _ _).bind fun {_ k'} _ _ => ?_
  refine .look rfl ?_
  cases hcheck : k'.processors.ensureQuiescent with
  | error e =>
    -- The check fails only while something is in flight, and bring-up left nothing in flight.
    have hbusy : ¬k'.processors.Quiet := fun hquiet =>
      nomatch (ProcessorTable.ensureQuiescent_eq_ok.mpr hquiet).symm.trans hcheck
    exact quiet_of_busy hbusy _
  | ok _ => exact (quiet_removeTrampoline paging).bind fun _ _ => .pure _

/-- **Starting the other processors keeps quiet.** -/
theorem quiet_initProcessors {T : Type} [Acpi.PlatformTables T] (platform : T)
    (paging : KernelPaging X) : (quiet X).Obeys k (initProcessors platform paging) := by
  refine .look rfl (.ite (fun _ => (quiet_log _ _).bind fun _ _ => .pure _) fun _ => .look rfl ?_)
  cases k.localApic.get? with
  | none => exact (quiet_log _ _).bind fun _ _ => .pure _
  | some apic =>
    refine (quiet_of_conduct Conduct.obeys_currentApicId).bind fun _ _ =>
      (quiet_discoverHere _ _).bind fun _ _ => (quiet_log _ _).bind fun _ _ =>
        .ite (fun _ => (quiet_log _ _).bind fun _ _ => .pure _) fun _ =>
          (quiet_installTrampoline paging).bind fun {installed k'} _ _ => ?_
    cases installed with
    | ok blockAddress => exact quiet_launchAll _ paging apic blockAddress
    | error e =>
      cases e with
      | trampolineTooLarge size => exact quiet_fatal fun _ h => nomatch h
      | _ => exact (quiet_log _ _).bind fun _ _ => .pure _

end Boot

end Interrupts
