import Interrupts.Proofs.Kernel.Launching
import Interrupts.Proofs.Kernel.Watched
import Interrupts.Proofs.Processor.Rig

/-!
# Every processor is settled

Bring-up asks its environment for everything, and the environment may answer as it likes and raise
the flag of any processor at any call. Whatever it does, a table of which nothing was in flight is
settled: `SettledBy` holds of the journal of all moves. Therefore the kernel never stops because
the trampoline page is still in use, and a second bring-up finds nothing to do.
-/

namespace Interrupts

open Boot

/-- **A record of lines only** leaves the table as it was, when no line changed it. -/
theorem Linked.eq_of_lines {t t' : ProcessorTable} {ms : List ApMove} (h : Linked t ms t')
    (hlines : ∀ m ∈ ms, m.act = .line) (hsame : ∀ m ∈ ms, m.act = .line → m.after = m.before) :
    t' = t := by
  induction ms generalizing t with
  | nil => exact h
  | cons m ms ih =>
    obtain ⟨hbefore, hrest⟩ := h
    have hafter : m.after = t := by
      rw [hsame m List.mem_cons_self (hlines m List.mem_cons_self), hbefore]
    rw [hafter] at hrest
    exact ih hrest (fun m' hm' => hlines m' (List.mem_cons_of_mem _ hm'))
      fun m' hm' => hsame m' (List.mem_cons_of_mem _ hm')

/-- **Bring-up settles every processor.** After it, a second one against any environment makes no
call and changes nothing; and a kernel that starts its processors while nothing is in flight is not
stopped because the trampoline page is in use. -/
theorem bringUp_settles {W : Type} (env : ApEnvironment W) (cfg : BringUpConfig) (w : W)
    (t : ProcessorTable) (hquiet : t.Quiet) :
    let r := env.bringUp cfg w t
    SettledBy t r.1 r.2.journal r.2.table
      ∧ (∀ {W' : Type} (env' : ApEnvironment W') (cfg' : BringUpConfig) (w' : W'),
          let r' := env'.bringUp cfg' w' r.2.table
          (∀ m ∈ r'.2.journal, m.act = .line) ∧ r'.2.table = r.2.table)
      ∧ ∀ (X : Surroundings) [Behaviour X] {T : Type} [Acpi.PlatformTables T] (platform : T)
          (paging : KernelPaging X) (k k' : Kernel X) (e : Stop), k.processors.Quiet →
          initProcessors platform paging k = .error e k' → e.NotInUse := by
  obtain ⟨hcourse, -⟩ := env.bringUp_course cfg w t
  refine ⟨hcourse.settledBy hquiet, fun env' cfg' w' => ?_,
    fun X _ T _ platform paging k k' e hk hrun => ?_⟩
  · -- Nothing is pending after the first course, so that the second one only logs.
    obtain ⟨hagain, hsame⟩ := env'.bringUp_course cfg' w' (env.bringUp cfg w t).2.table
    have hlines := hagain.idle hcourse.not_pending
    exact ⟨hlines, hagain.settles.1.linked.eq_of_lines hlines hsame⟩
  · exact (quiet_initProcessors platform paging).stops hrun hk

namespace OneAnswers

/-- Every command is granted, and the processor with APIC id 4, at position 1, raises its flag at
its first STARTUP. -/
def environment : ApEnvironment Unit where
  prepare _ _ _ w := ⟨.ok (), [], w⟩
  sendInit _ _ w := ⟨.ok (), [], w⟩
  sendStartup id _ _ w := ⟨.ok (), if id = 4 then [1] else [], w⟩
  delay _ _ w := ⟨(), [], w⟩
  relax _ w := ⟨(), [], w⟩

/-- The boot processor and two others. -/
def table : ProcessorTable :=
  ⟨[⟨0, true, .started⟩, { apicId := 4 }, { apicId := 7 }]⟩

/-- A kernel whose Local APIC has an empty window. -/
def kernel : Kernel Still :=
  { hardware := (), apicIdSource := .localApic, localApic := .ready ⟨⟨0, 0, 0⟩, 0⟩ }

end OneAnswers

open OneAnswers in
/-- Of two other processors one answers and one is silent. And a kernel with nothing in flight that
cannot even read its APIC id stops, but not because of the trampoline page. -/
theorem bringUp_settles_oneAnswers :
    table.Quiet
      ∧ (∃ outcome s, environment.bringUp { startupWait := ⟨2⟩ } () table = (outcome, s)
        ∧ outcome = .completed { processors := 3, started := 1, abandoned := 1 }
        ∧ SettledBy table outcome s.journal s.table)
      ∧ kernel.processors.Quiet
      ∧ ∃ e k', initProcessors Acpi.MadtPlatform.absent (.registered ()) kernel = .error e k'
        ∧ e.NotInUse := by
  have htable : table.Quiet := ProcessorTable.ensureQuiescent_eq_ok.mp rfl
  have hkernel : kernel.processors.Quiet := ProcessorTable.ensureQuiescent_eq_ok.mp rfl
  have houtcome : (environment.bringUp { startupWait := ⟨2⟩ } () table).1
      = .completed { processors := 3, started := 1, abandoned := 1 } := by decide +kernel
  have hstops : (match initProcessors Acpi.MadtPlatform.absent (.registered ()) kernel with
    | .ok _ _ => false
    | .error _ _ => true) = true := by decide +kernel
  obtain ⟨hsettled, -, hfree⟩ := bringUp_settles environment { startupWait := ⟨2⟩ } () table htable
  refine ⟨htable, ?_, hkernel, ?_⟩
  · generalize environment.bringUp { startupWait := ⟨2⟩ } () table = r at houtcome hsettled
    exact ⟨r.1, r.2, rfl, houtcome, hsettled⟩
  · cases hrun : initProcessors Acpi.MadtPlatform.absent (.registered ()) kernel with
    | ok outcome k' => exact nomatch hrun ▸ hstops
    | error e k' => exact ⟨e, k', rfl, hfree Still _ _ kernel k' e hkernel hrun⟩

end Interrupts
