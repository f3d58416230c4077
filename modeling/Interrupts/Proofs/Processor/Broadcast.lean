import Interrupts.Proofs.Acpi.RoundTrip
import Interrupts.Proofs.Processor.Aiming
import Interrupts.Proofs.Processor.Roster

/-!
# Whom a command reaches

Bring-up resets the processors that it starts, and must not reset the one that it runs on. A command
names its target with eight bits: the APIC id of one processor, or 255, which stands for all of
them, the sender included.

Every command of bring-up goes to an id that the interrupt topology table lists, and never to the
boot processor's own. But discovery takes the ids as the table gives them, and 255 fits the
destination of a command as well as any other id does. So bring-up spares the boot processor exactly
when the processor 255 is not on the roster; an id that does not fit at all is refused, by contrast,
before anything is sent.
-/

namespace Interrupts

open BringUp

/-! ## The target of a command -/

namespace IpiCommand

/-- The destination that stands for all processors, the sender included. -/
def everyone : UInt8 := 0xff

/-- **A command spares a processor**: it goes to one processor, and that is another one. -/
structure Spares (c : IpiCommand) (boot : UInt32) : Prop where
  /-- The destination is an APIC id, and not a set of logical ones. -/
  physical : c.low.toNat.testBit 11 = false
  /-- No shorthand stands in for the destination. -/
  named : c.low.toNat.testBit 18 = false ∧ c.low.toNat.testBit 19 = false
  /-- The destination is not the one that stands for everybody. -/
  single : c.destination ≠ everyone
  /-- And it is not the processor itself. -/
  other : c.destination.toUInt32 ≠ boot

/-- A command says only in its high half where it goes. -/
theorem testBit_low_new (d vector : UInt8) (delivery : IpiDelivery) {flags : UInt32} {n : Nat}
    (hlow : 8 ≤ n) (hdelivery : delivery.bits.toNat.testBit n = false)
    (hflags : flags.toNat.testBit n = false) :
    (new d delivery vector flags).low.toNat.testBit n = false := by
  have hvector : vector.toNat < 2 ^ n :=
    Nat.lt_of_lt_of_le vector.toNat_lt (Nat.pow_le_pow_right (by decide) hlow)
  rw [new, UInt32.toNat_or, UInt32.toNat_or, UInt32.toNat_and, Nat.testBit_or, Nat.testBit_or,
    Nat.testBit_and, UInt8.toNat_toUInt32, Nat.testBit_lt_two_pow hvector, hdelivery, hflags]
  rfl

/-- **An INIT or a STARTUP to one other processor** spares the boot processor. -/
theorem Spares.of_destination {c : IpiCommand} {boot : UInt32} {page : UInt8}
    (hkind : c = .init c.destination ∨ c = .startup c.destination page)
    (hsingle : c.destination ≠ everyone) (hother : c.destination.toUInt32 ≠ boot) :
    c.Spares boot := by
  have hbits : ∀ n ∈ [11, 18, 19], c.low.toNat.testBit n = false := by
    intro n hn
    simp only [List.mem_cons, List.not_mem_nil, or_false] at hn
    rcases hkind with h | h <;> rw [h] <;> rcases hn with rfl | rfl | rfl <;>
      exact testBit_low_new _ _ _ (by decide) (by decide) (by decide)
  exact ⟨hbits 11 (by decide), ⟨hbits 18 (by decide), hbits 19 (by decide)⟩, hsingle, hother⟩

end IpiCommand

/-! ## Finding and starting processors -/

/-- **Find the other processors and start them.** -/
def BringUp.ofPlatform {A T : Type} {m : Type → Type} [Monad m] [Logger m]
    [MonadStateOf ProcessorTable m] [ApControl A m] [Acpi.PlatformTables T] (platform : T)
    (boot : UInt32) (ctl : A) (cfg : BringUpConfig) : m BringUp := do
  let _ ← ProcessorTable.discoverHere boot (Acpi.PlatformTables.usableApicIds platform)
  run ctl cfg

/-- **The commands that are sent** when that is done in a world that has no processors listed
yet. -/
def sentCommands {W R P : Type} [LaunchWorld W] (platform : Acpi.MadtPlatform) (boot : UInt32)
    (l : Launcher R P) (cfg : BringUpConfig) (page : Bytes) (w : W) : List IpiCommand :=
  (LaunchM.scene ((ofPlatform platform boot l cfg : LaunchM W BringUp)
    { world := w, table := {}, page })).commands

/-- **Bring-up spares the boot processor**, in every world. -/
def SparesBoot (platform : Acpi.MadtPlatform) (boot : UInt32) : Prop :=
  ∀ {W R P : Type} [LaunchWorld W] (l : Launcher R P) (cfg : BringUpConfig) (page : Bytes) (w : W),
    ∀ c ∈ sentCommands platform boot l cfg page w, c.Spares boot

section Sending

variable {W α : Type} {startPage : UInt8} {s s' s'' : LaunchScene W}

/-- **Commands go to listed processors** other than the first, and the list stays. -/
structure SendsToListed (startPage : UInt8) (s s' : LaunchScene W) : Prop where
  /-- The list stays as it was. -/
  ids : s'.table.ids = s.table.ids
  /-- Every command is an INIT or a STARTUP for one of the listed ones. -/
  commands : ∃ cs, s'.commands = s.commands ++ cs
    ∧ ∀ c ∈ cs, ∃ id ∈ s.table.ids.tail, LaunchAct.AimedAt id startPage (.command c)

/-- A stretch in which nothing is sent. -/
theorem SendsToListed.of_silent (hids : s'.table.ids = s.table.ids)
    (hcommands : s'.commands = s.commands) : SendsToListed startPage s s' :=
  ⟨hids, [], by rw [hcommands, List.append_nil], nofun⟩

/-- Two stretches that send to listed processors only do so together. -/
theorem SendsToListed.trans (h : SendsToListed startPage s s')
    (h' : SendsToListed startPage s' s'') : SendsToListed startPage s s'' where
  ids := h'.ids.trans h.ids
  commands := by
    obtain ⟨cs, hcs, hall⟩ := h.commands
    obtain ⟨cs', hcs', hall'⟩ := h'.commands
    refine ⟨cs ++ cs', by rw [hcs', hcs, List.append_assoc], List.forall_mem_append.mpr ⟨hall, ?_⟩⟩
    rwa [h.ids] at hall'

/-- **The discipline of sending**; it also holds of a run that is stopped. -/
def sending (W : Type) (startPage : UInt8) : Discipline Stop (LaunchScene W) where
  keeps := SendsToListed startPage
  stops s _ s' := SendsToListed startPage s s'
  refl _ := .of_silent rfl rfl
  trans := SendsToListed.trans
  stops_of_keeps := SendsToListed.trans

/-- The commands that were sent are commands of the journal. -/
theorem LaunchScene.commands_of_journal {ms : List LaunchMoment}
    (h : s'.journal = s.journal ++ ms) :
    ∃ cs, s'.commands = s.commands ++ cs ∧ ∀ c ∈ cs, ∃ m ∈ ms, m.act = .command c := by
  refine ⟨_, by unfold commands; rw [h, List.filterMap_append], fun c hc => ?_⟩
  obtain ⟨m, hm, hact⟩ := List.mem_filterMap.mp hc
  refine ⟨m, hm, ?_⟩
  split at hact
  next heq => rw [heq, Option.some.inj hact]
  next => exact nomatch hact

/-- What is done for one of the listed processors is sent to it. -/
theorem Passes.sendsToListed {i : Nat} {id : UInt32}
    (h : Passes (LaunchAct.AimedAt id startPage) i s s') (hid : id ∈ s.table.ids.tail) :
    SendsToListed startPage s s' := by
  obtain ⟨ms, hjournal, hall⟩ := h.journal
  obtain ⟨cs, hcommands, hsent⟩ := LaunchScene.commands_of_journal hjournal
  refine ⟨h.ids, cs, hcommands, fun c hc => ⟨id, hid, ?_⟩⟩
  obtain ⟨m, hm, hact⟩ := hsent c hc
  exact hact ▸ (hall m hm).1

/-- A program aimed at one listed identifier sends to listed processors only. -/
theorem Discipline.Obeys.sendsToListed {x : LaunchM W α} {i : Nat} {id : UInt32}
    (h : (passing W (LaunchAct.AimedAt id startPage) i).Obeys s x) (hid : id ∈ s.table.ids.tail) :
    (sending W startPage).Obeys s x :=
  ⟨fun hrun => (h.returns hrun).sendsToListed hid, fun hrun => (h.stops hrun).sendsToListed hid⟩

/-- Anything but a command. -/
theorem sendsToListed_pass (act : LaunchAct) (hact : ∀ c, act ≠ .command c) (r : ApReply W α)
    (s : LaunchScene W) : SendsToListed startPage s (LaunchM.pass act r s) := by
  refine .of_silent (extends_pass 0 act r s).1.ids ?_
  unfold LaunchScene.commands LaunchM.pass
  rw [List.filterMap_append]
  cases act with
  | command c => exact absurd rfl (hact c)
  | stack answer => exact List.append_nil _
  | other => exact List.append_nil _

section Steps

variable {R P : Type} [LaunchWorld W]

/-- **Preparing a processor sends nothing.** -/
theorem sending_prepare (l : Launcher R P) (i : Nat) (id : UInt32) (s : LaunchScene W) :
    (sending W startPage).Obeys s (l.prepare i id : LaunchM W (Except BringUpError Unit)) := by
  have hallocate : (sending W startPage).Obeys s
      (Launcher.allocateStack (LaunchM W) : LaunchM W (Except BringUpError UInt64)) := by
    have hgrant : (sending W startPage).Obeys s
        (StackSource.allocate Launcher.stackSize : LaunchM W (Option UInt64)) :=
      .step rfl (sendsToListed_pass (.stack _) (fun _ => nofun) _ s)
    refine hgrant.bind ?_
    rintro (_ | base) s' - -
    · exact .pure _
    · refine Discipline.Obeys.bind ?_ fun _ _ => .pure _
      exact .ite (fun _ => .pure _) fun _ => .throw ((sending W startPage).refl _)
  refine hallocate.bind ?_
  rintro (e | top) s' - -
  · exact .pure _
  · have hplace : SendsToListed startPage s'
        { s' with page := LaunchM.placed s'.page l.blockAddress (l.paramsFor i top).encode } :=
      .of_silent rfl rfl
    exact Discipline.Obeys.bind (.step rfl hplace) fun _ _ => .pure _

/-- A look shows the table that there is then. -/
theorem LaunchM.getThe_eq_ok {t : ProcessorTable}
    (h : (getThe ProcessorTable : LaunchM W ProcessorTable) s = .ok t s') : t = s'.table := by
  cases h
  rfl

/-- **Bring-up sends to listed processors** other than the first. -/
theorem sending_permitsAll (l : Launcher R P) (cfg : BringUpConfig) :
    (sending W cfg.startPage).PermitsAll l cfg where
  look s := .step rfl (sendsToListed_pass .other (fun _ => nofun) _ s)
  line _ _ _ := .pure _
  one {s₀ s t i p} hlook hi hp := by
    have hids : t.ids[i]? = some p.apicId := ProcessorTable.ids_get? hp
    rw [LaunchM.getThe_eq_ok hlook] at hids
    have hlisted : p.apicId ∈ s.table.ids.tail := by
      refine List.mem_of_getElem? (i := i - 1) ?_
      rw [List.getElem?_tail, Nat.sub_add_cancel hi, hids]
    rw [startOne_eq]
    refine (sending_prepare l i p.apicId s).bind fun _ hkeeps => ?_
    exact ((permits_passing l cfg i p.apicId).obeys_afterPrepare _ _).sendsToListed
      (hkeeps.ids ▸ hlisted)

end Steps

/-! ## Discovery -/

/-- Lines change nothing. -/
theorem LaunchM.logAll_bind (lines : List Record) (f : Unit → LaunchM W α) (s : LaunchScene W) :
    (logAll lines >>= f) s = f () s := by
  refine bind_of_ok ?_
  induction lines with
  | nil => rfl
  | cons line lines ih => exact ih

variable [LaunchWorld W]

/-- **Discovery** is a look at the table, and then another table. -/
theorem LaunchM.discoverHere_bind (boot : UInt32) (others : List UInt32) (f : Nat → LaunchM W α)
    (s : LaunchScene W) :
    (ProcessorTable.discoverHere boot others >>= f) s
      = let t := ((looked s).table.discover boot others).2
        f t.size { looked s with table := t } := by
  exact bind_of_ok (logAll_bind _ _ _)

/-- Nobody in an empty table raises a flag. -/
theorem LaunchM.table_looked {s : LaunchScene W} (h : s.table = {}) : (looked s).table = {} := by
  have hempty : (looked s).table.ids = [] :=
    (extends_looked 0 s).1.ids.trans (congrArg ProcessorTable.ids h)
  exact congrArg ProcessorTable.mk (List.map_eq_nil_iff.mp hempty)

/-- **Bring-up begins** when nothing was sent yet, with the boot processor and the roster in the
table. -/
theorem sentCommands_eq {R P : Type} (t : Acpi.Madt) (model : Acpi.InterruptModel) (boot : UInt32)
    (l : Launcher R P) (cfg : BringUpConfig) (page : Bytes) (w : W) :
    ∃ s : LaunchScene W, s.world = (LaunchWorld.look {} page w).world ∧ s.commands = []
      ∧ s.table.cpus = { apicId := boot, started := true, state := .started }
        :: (roster boot (t.listedIds t.raws)).map (fun id => { apicId := id })
      ∧ sentCommands { madt := some t, model } boot l cfg page w
        = (LaunchM.scene ((run l cfg : LaunchM W BringUp) s)).commands := by
  have hcpus := ProcessorTable.cpus_discover boot (t.listedIds t.raws)
  refine ⟨{ LaunchM.looked { world := w, table := {}, page } with
    table := (({} : ProcessorTable).discover boot (t.listedIds t.raws)).2 }, rfl, rfl, hcpus, ?_⟩
  unfold sentCommands ofPlatform
  rw [t.usableApicIds_eq model, LaunchM.discoverHere_bind, LaunchM.table_looked rfl]

end Sending

/-- **The commands of bring-up** are INITs and STARTUPs to the processors on the roster. -/
theorem sentCommands_destination {W R P : Type} [LaunchWorld W] (t : Acpi.Madt)
    (model : Acpi.InterruptModel) (boot : UInt32) (l : Launcher R P) (cfg : BringUpConfig)
    (page : Bytes) (w : W) :
    ∀ c ∈ sentCommands { madt := some t, model } boot l cfg page w,
      (c = .init c.destination ∨ c = .startup c.destination cfg.startPage)
        ∧ c.destination.toUInt32 ∈ roster boot (t.listedIds t.raws) := by
  intro c hc
  obtain ⟨s, -, hsilent, hcpus, hsent⟩ := sentCommands_eq t model boot l cfg page w
  obtain ⟨cs, hcs, hall⟩ := (((sending_permitsAll l cfg).obeys_run s).scene fun h => h).commands
  rw [hsent, hcs, hsilent, List.nil_append] at hc
  obtain ⟨id, hid, hto, hkind⟩ := hall c hc
  have hdestination : c.destination.toUInt32 = id := by
    rw [← UInt32.toNat_inj, UInt8.toNat_toUInt32, hto]
  rw [ProcessorTable.ids_of_cpus hcpus, List.tail_cons] at hid
  exact ⟨hkind, hdestination ▸ hid⟩

/-! ## A world that is reset -/

/-- **A world that grants a stack after some refusals**, and that ends with the first command, since
whoever sent it is reset. -/
structure Refusals where
  /-- How many more stacks are refused. -/
  left : Nat

namespace Refusals

instance : LaunchWorld Refusals where
  read _ _ _ w := ⟨.ok 0, [], w⟩
  write offset _ _ _ w :=
    ⟨if offset = LocalApic.commandLow then .error .halted else .ok (), [], w⟩
  readPort _ _ _ w := ⟨.ok 0, [], w⟩
  writePort _ _ _ _ w := ⟨.ok (), [], w⟩
  allocate _ _ _
    | ⟨0⟩ => ⟨some 0x100000, [], ⟨0⟩⟩
    | ⟨left + 1⟩ => ⟨none, [], ⟨left⟩⟩
  look _ _ w := ⟨(), [], w⟩

variable {R P : Type} (l : Launcher R P) (cfg : BringUpConfig) {s : LaunchScene Refusals}

/-- A processor for which there is no stack is passed over. -/
theorem startOne_refused (i : Nat) (id : UInt32) {k : Nat} (hworld : s.world = ⟨k + 1⟩) :
    ∃ s', (startOne l cfg i id : LaunchM Refusals Bool) s = .ok false s' ∧ s'.world = ⟨k⟩
      ∧ s'.table = s.table.setState i .abandoned := by
  -- Once the world's answers are known, the run is computed.
  obtain ⟨world, table, page, high, journal⟩ := s
  subst hworld
  exact ⟨_, rfl, rfl, rfl⟩

/-- The processor for which there is one is sent an INIT, even if its id is 255. -/
theorem startOne_granted (i : Nat) (hworld : s.world = ⟨0⟩) :
    ∃ s', (startOne l cfg i 0xff : LaunchM Refusals Bool) s = .error .halted s'
      ∧ .init 0xff ∈ s'.commands := by
  obtain ⟨world, table, page, high, journal⟩ := s
  subst hworld
  exact ⟨_, rfl, List.mem_filterMap.mpr ⟨_, List.mem_append_right _ List.mem_cons_self, rfl⟩⟩

/-- A pending processor is started when it is its turn. -/
theorem startFrom_pending (left started abandoned : Nat) {index : Nat} {id : UInt32}
    (hpending : s.table.state? index = some .discovered) (hid : s.table.ids[index]? = some id) :
    ∃ s₁ : LaunchScene Refusals, s₁.world = s.world ∧ s₁.table = s.table
      ∧ (startFrom l cfg (left + 1) index started abandoned : LaunchM Refusals (Nat × Nat)) s
        = (startOne l cfg index id >>= fun online =>
            if online then startFrom l cfg left (index + 1) (started + 1) abandoned
            else startFrom l cfg left (index + 1) started (abandoned + 1) : LaunchM Refusals _)
          s₁ := by
  obtain ⟨p, hp, hstate⟩ := ProcessorTable.state?_eq_some.mp hpending
  cases (ProcessorTable.ids_get? hp).symm.trans hid
  refine ⟨LaunchM.looked s, rfl, rfl, ?_⟩
  have hlooked : (LaunchM.looked s).table.get? index = some p := hp
  conv_lhs => unfold startFrom
  rw [LaunchM.look_bind, hlooked]
  dsimp only
  rw [if_pos hstate]

/-- **Bring-up comes to the processor** that is as many places on as there are refusals. -/
theorem startFrom_reaches {k left : Nat} (hleft : k ≤ left) {index : Nat} (started abandoned : Nat)
    (hworld : s.world = ⟨k⟩)
    (hpending : ∀ j, index ≤ j → j ≤ index + k → s.table.state? j = some .discovered)
    (hid : s.table.ids[index + k]? = some 0xff) :
    ∃ s', (startFrom l cfg (left + 1) index started abandoned : LaunchM Refusals (Nat × Nat)) s
        = .error .halted s'
      ∧ .init 0xff ∈ s'.commands := by
  -- the induction is on the number of processors that are refused a stack before the one meant
  induction k generalizing left index abandoned s with
  | zero =>
    obtain ⟨s₁, hworld₁, -, hrun⟩ := startFrom_pending l cfg left started abandoned
      (hpending index (Nat.le_refl _) (Nat.le_refl _)) hid
    obtain ⟨s₂, hgranted, hsent⟩ := startOne_granted l cfg index (hworld₁.trans hworld)
    refine ⟨s₂, ?_, hsent⟩
    rw [hrun, bind_apply, hgranted]
  | succ k ih =>
    have hlisted : index < s.table.ids.length :=
      Nat.lt_of_le_of_lt (Nat.le_add_right _ _) (List.getElem?_eq_some_iff.mp hid).1
    obtain ⟨s₁, hworld₁, htable₁, hrun⟩ := startFrom_pending l cfg left started abandoned
      (hpending index (Nat.le_refl _) (Nat.le_add_right _ _)) (List.getElem?_eq_getElem hlisted)
    obtain ⟨s₂, hrefused, hworld₂, htable₂⟩ :=
      startOne_refused l cfg index s.table.ids[index] (hworld₁.trans hworld)
    -- a refused stack abandons this processor and leaves the later ones to be found
    rw [htable₁] at htable₂
    rw [hrun, bind_of_ok hrefused]
    obtain ⟨left, rfl⟩ : ∃ n, left = n + 1 := ⟨left - 1, by omega⟩
    refine ih (Nat.le_of_succ_le_succ hleft) (abandoned + 1) hworld₂ (fun j hlow hhigh => ?_) ?_
    · rw [htable₂, ProcessorTable.state?_setState_of_ne _ (Nat.ne_of_lt hlow)]
      exact hpending j (Nat.le_of_succ_le hlow) (by omega)
    · rw [htable₂, ProcessorTable.ids_setState, Nat.add_assoc, Nat.add_comm 1]
      exact hid

/-- **So does a run after discovery**, which ends there. -/
theorem run_reaches {boot : UInt32} {listed : List UInt32} {k : Nat}
    (hcpus : s.table.cpus = { apicId := boot, started := true, state := .started }
      :: listed.map fun id => { apicId := id })
    (hworld : s.world = ⟨k⟩) (hk : listed[k]? = some 0xff) :
    ∃ s', (run l cfg : LaunchM Refusals BringUp) s = .error .halted s'
      ∧ .init 0xff ∈ s'.commands := by
  have hlast : k < listed.length := (List.getElem?_eq_some_iff.mp hk).1
  have hsize : s.table.size = 1 + listed.length := ProcessorTable.size_of_cpus hcpus
  -- the registered processors stand behind the boot processor, each still to be started
  have hpending : ∀ j, 1 ≤ j → j ≤ 1 + k → s.table.state? j = some .discovered := by
    intro j hlow hhigh
    have hj : j ∈ s.table.pending := by
      rw [ProcessorTable.pending_of_cpus hcpus]
      exact List.mem_range'_1.mpr ⟨hlow, by omega⟩
    exact of_decide_eq_true (List.mem_filter.mp hj).2
  have hid : s.table.ids[1 + k]? = some 0xff := by
    rw [ProcessorTable.ids_of_cpus hcpus, Nat.add_comm, List.getElem?_cons_succ, hk]
  have hlooked : (LaunchM.looked s).table = s.table := rfl
  obtain ⟨left, hleft⟩ : ∃ left, s.table.size - 1 = left + 1 := ⟨s.table.size - 2, by omega⟩
  have hfits : k ≤ left := by omega
  obtain ⟨s', hrun, hinit⟩ :=
    startFrom_reaches l cfg (s := LaunchM.looked s) hfits 0 0 hworld hpending hid
  refine ⟨s', ?_, hinit⟩
  unfold run
  rw [LaunchM.look_bind, hlooked, if_neg (by omega), hleft, bind_apply, hrun]

/-- **If 255 is on the roster, it is sent an INIT** after the right number of refusals. -/
theorem exists_init_everyone (t : Acpi.Madt) (model : Acpi.InterruptModel) {boot : UInt32}
    (h : 0xff ∈ roster boot (t.listedIds t.raws)) (page : Bytes) :
    ∃ w : Refusals,
      .init IpiCommand.everyone ∈ sentCommands { madt := some t, model } boot l cfg page w := by
  obtain ⟨k, hk⟩ := List.getElem?_of_mem h
  obtain ⟨s, hworld, -, hcpus, hsent⟩ :=
    sentCommands_eq t model boot l cfg page (⟨k⟩ : Refusals)
  obtain ⟨s', hrun, hinit⟩ := run_reaches l cfg hcpus hworld hk
  refine ⟨⟨k⟩, ?_⟩
  rw [hsent, hrun]
  exact hinit

end Refusals

/-! ## Whether the boot processor is spared -/

/-- The boot processor is not on its own roster. -/
theorem notMem_roster_self (boot : UInt32) (ids : List UInt32) : boot ∉ roster boot ids := by
  intro h
  have hother := List.mem_filter.mp (List.mem_eraseDups.mp (List.mem_of_mem_take h))
  exact of_decide_eq_true hother.2 rfl

/-- **Bring-up spares the boot processor exactly when 255 is not on the roster.** In every world, it
sends INITs and STARTUPs to processors on the roster only: usable ones that the table lists, other
than the boot processor. Such a command goes to that one processor, unless its id is the
destination that stands for everybody. If such a processor is on the roster, there is a world in
which everybody is reset, and the boot processor with them. -/
theorem sparesBoot_iff (t : Acpi.Madt) (model : Acpi.InterruptModel) (boot : UInt32) :
    let platform : Acpi.MadtPlatform := { madt := some t, model }
    let others := roster boot (t.listedIds t.raws)
    (∀ {W R P : Type} [LaunchWorld W] (l : Launcher R P) (cfg : BringUpConfig) (page : Bytes)
        (w : W), ∀ c ∈ sentCommands platform boot l cfg page w,
      (c = .init c.destination ∨ c = .startup c.destination cfg.startPage)
        ∧ c.destination.toUInt32 ∈ others)
      ∧ (SparesBoot platform boot ↔ 0xff ∉ others) := by
  refine ⟨sentCommands_destination t model boot, fun hspares heveryone => ?_, ?_⟩
  -- one way: surroundings that refuse every stack before 255 grant the INIT to everyone; the other
  -- way: a command goes to a listed processor, and neither 255 nor the boot processor is listed
  · obtain ⟨w, hinit⟩ :=
      Refusals.exists_init_everyone Awake.launcher {} t model heveryone Awake.page
    exact (hspares Awake.launcher {} Awake.page w _ hinit).single rfl
  · intro hnobody W R P _ l cfg page w c hc
    obtain ⟨hkind, hlisted⟩ := sentCommands_destination t model boot l cfg page w c hc
    refine .of_destination hkind (fun heveryone => hnobody ?_) fun hboot => ?_
    · rw [heveryone] at hlisted
      exact hlisted
    · rw [hboot] at hlisted
      exact notMem_roster_self boot _ hlisted

/-- A table with two usable processors, one of them with the id 255. -/
def crowdImage : Acpi.MadtImage where
  maker := List.replicate 28 0
  maker_length := Acpi.MadtImage.length_blank
  lapicAddress := 0xFEE00000
  flags := 1
  entries := [.localApic { processorId := 0, apicId := 0, flags := 1 } [],
    .localApic { processorId := 1, apicId := 255, flags := 1 } []]
  entry_fits := by decide
  fits := by decide

/-- **The boot processor resets itself** with such a table, even where everything works. -/
theorem not_sparesBoot_crowd :
    Acpi.Madt.parse crowdImage.bytes = .ok ⟨crowdImage.bytes⟩
      ∧ sentCommands { madt := some ⟨crowdImage.bytes⟩ } 0 Awake.launcher Awake.pacing Awake.page ()
        = [.init 0xff, .startup 0xff 8]
      ∧ ¬SparesBoot { madt := some ⟨crowdImage.bytes⟩ } 0 := by
  have hsent : sentCommands { madt := some ⟨crowdImage.bytes⟩ } 0 Awake.launcher Awake.pacing
      Awake.page () = [.init 0xff, .startup 0xff 8] := by decide +kernel
  refine ⟨by decide +kernel, hsent, fun hspares => ?_⟩
  have hinit := hspares Awake.launcher Awake.pacing Awake.page () (.init 0xff)
    (hsent ▸ List.mem_cons_self)
  exact hinit.single rfl

end Interrupts
