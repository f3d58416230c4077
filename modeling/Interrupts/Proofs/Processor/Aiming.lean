import Interrupts.Proofs.Processor.Calls
import Interrupts.Proofs.Processor.LaunchRig

/-!
# The page is for the processor that is started

There is one block of parameters for all processors, and it is filled in anew for each. Commands may
be refused, repeated or go unanswered meanwhile, and any processor may run from the page at any
time. What matters is that the block agrees with the commands: as long as commands are sent to one
processor, the block tells whoever reads it that processor's position, and so a processor that runs
from the page then raises the flag that is waited for.

`Launches` is a grammar of the journals of bring-up, one word for each processor. The main statement
is that bring-up keeps to it in every world, even when it is stopped somewhere, and that no byte of
the page outside the block ever changes.
-/

namespace Interrupts

open BringUp

/-! ## The grammar -/

/-- **What is done while a processor is started**: commands to it, an INIT or a STARTUP at a page,
and nothing else that counts. -/
def LaunchAct.AimedAt (id : UInt32) (startPage : UInt8) : LaunchAct → Prop
  | .stack _ => False
  | .command c => c.destination.toNat = id.toNat
      ∧ (c = .init c.destination ∨ c = .startup c.destination startPage)
  | .other => True

/-- **The page is for the processor at a position.** Its block tells that position, and otherwise
what it tells every processor; and whoever reads the position now and raises the flag there raises
the flag that is waited for. -/
structure LaunchMoment.IsFor (m : LaunchMoment) (template : LaunchParams) (offset : UInt64)
    (i : Nat) : Prop where
  /-- The block tells the position, and it is not cut off by its width. -/
  cpuIndex : (Trampoline.readParams m.page offset).cpuIndex.toNat = i
  /-- The page tables are those of all processors, and so is the rest. -/
  cr3 : (Trampoline.readParams m.page offset).cr3 = template.cr3
  entry : (Trampoline.readParams m.page offset).entry = template.entry
  gdtLimit : (Trampoline.readParams m.page offset).gdtLimit = template.gdtLimit
  gdtBase : (Trampoline.readParams m.page offset).gdtBase = template.gdtBase
  /-- The flag that is raised for the position in the block is the flag of this processor. -/
  marks : (m.table.markStarted (Trampoline.readParams m.page offset).cpuIndex.toNat).isStarted i
    = true

/-- **The moments of one processor.** -/
inductive LaunchWord (template : LaunchParams) (offset : UInt64) (startPage : UInt8) (i : Nat)
    (id : UInt32) : List LaunchMoment → Prop
  /-- There is no stack for it, and no command is sent. -/
  | refused {m : LaunchMoment} {ms : List LaunchMoment} (stack : m.act = .stack none)
      (quiet : ∀ m' ∈ ms, m'.act = .other) : LaunchWord template offset startPage i id (m :: ms)
  /-- There is one, and from then on the commands and the page are for this processor. -/
  | granted {m : LaunchMoment} {ms : List LaunchMoment} {base : UInt64}
      (stack : m.act = .stack (some base))
      (aimed : ∀ m' ∈ ms, m'.act.AimedAt id startPage ∧ m'.IsFor template offset i) :
      LaunchWord template offset startPage i id (m :: ms)

/-- **The moments of several processors**, given by their positions, one after the other. The
journal may end before the last of them only if the run did not `return`. -/
inductive Launches (template : LaunchParams) (offset : UInt64) (startPage : UInt8)
    (ids : List UInt32) (returned : Prop) : List Nat → List LaunchMoment → Prop
  /-- No word is left, or the run was stopped before the next one. -/
  | ends {positions : List Nat} {ms : List LaunchMoment} (quiet : ∀ m ∈ ms, m.act = .other)
      (complete : returned → positions = []) :
      Launches template offset startPage ids returned positions ms
  /-- The word of the next processor, with looks before it. -/
  | word {i : Nat} {id : UInt32} {positions : List Nat} {looks w ms : List LaunchMoment}
      (listed : ids[i]? = some id) (quiet : ∀ m ∈ looks, m.act = .other)
      (word : LaunchWord template offset startPage i id w)
      (rest : Launches template offset startPage ids returned positions ms) :
      Launches template offset startPage ids returned (i :: positions) (looks ++ (w ++ ms))

section Grammar

variable {template : LaunchParams} {offset : UInt64} {startPage : UInt8} {ids : List UInt32}
  {returned returned' : Prop} {positions : List Nat} {ms : List LaunchMoment}

/-- A look at the table before all else. -/
theorem Launches.look {m : LaunchMoment} (hm : m.act = .other)
    (h : Launches template offset startPage ids returned positions ms) :
    Launches template offset startPage ids returned positions (m :: ms) := by
  cases h with
  | ends quiet complete => exact .ends (List.forall_mem_cons.mpr ⟨hm, quiet⟩) complete
  | word listed quiet word rest =>
    exact .word listed (List.forall_mem_cons.mpr ⟨hm, quiet⟩) word rest

/-- Whether the run returned matters only to what comes after the last word. -/
theorem Launches.imp (h : Launches template offset startPage ids returned positions ms)
    (himp : returned' → returned) :
    Launches template offset startPage ids returned' positions ms := by
  induction h with
  | ends quiet complete => exact .ends quiet fun hr => complete (himp hr)
  | word listed quiet word _ ih => exact .word listed quiet word ih

/-- **Every command is aimed** at one of the processors, for which the page is at the time. -/
theorem Launches.aimed (h : Launches template offset startPage ids returned positions ms)
    {m : LaunchMoment} (hm : m ∈ ms) {c : IpiCommand} (hc : m.act = .command c) :
    ∃ i ∈ positions, ∃ id, ids[i]? = some id ∧ m.act.AimedAt id startPage
      ∧ m.IsFor template offset i := by
  induction h with
  | ends quiet => exact nomatch (quiet m hm).symm.trans hc
  | @word i id positions looks w ms listed quiet word _ ih =>
    rcases List.mem_append.mp hm with hlook | hm
    · exact nomatch (quiet m hlook).symm.trans hc
    rcases List.mem_append.mp hm with hmem | hrest
    · refine ⟨i, List.mem_cons_self, id, listed, ?_⟩
      -- only a granted stack is followed by commands, and those come after the block was written
      cases word with
      | refused stack quiet =>
        rcases List.mem_cons.mp hmem with rfl | hmem
        · exact nomatch stack.symm.trans hc
        · exact nomatch (quiet m hmem).symm.trans hc
      | granted stack aimed =>
        rcases List.mem_cons.mp hmem with rfl | hmem
        · exact nomatch stack.symm.trans hc
        · exact aimed m hmem
    · obtain ⟨j, hj, hrest⟩ := ih hrest
      exact ⟨j, List.mem_cons_of_mem i hj, hrest⟩

end Grammar

/-! ## Time passes -/

/-- **Time passes while the processor at a position is started.** The page stays, the other
processors' states stay, and only allowed things are done. -/
structure Passes {W : Type} (allowed : LaunchAct → Prop) (i : Nat) (s s' : LaunchScene W) :
    Prop where
  /-- What the starting processor reads stays as it was written for it. -/
  page : s'.page = s.page
  /-- The positions keep their processors. -/
  ids : s'.table.ids = s.table.ids
  /-- Bring-up leaves the others to their own words. -/
  others : ∀ j, j ≠ i → s'.table.state? j = s.table.state? j
  /-- Everything done meanwhile is allowed, and done on this page. -/
  journal : ∃ ms, s'.journal = s.journal ++ ms
    ∧ ∀ m ∈ ms, allowed m.act ∧ m.page = s.page ∧ m.table.ids = s.table.ids

section Passing

variable {W α : Type} {allowed : LaunchAct → Prop} {i : Nat} {s s' s'' : LaunchScene W}

/-- Two stretches that keep to what is allowed do so together. -/
theorem Passes.trans (h : Passes allowed i s s') (h' : Passes allowed i s' s'') :
    Passes allowed i s s'' where
  page := h'.page.trans h.page
  ids := h'.ids.trans h.ids
  others := fun j hj => (h'.others j hj).trans (h.others j hj)
  journal := by
    obtain ⟨ms, hms, hall⟩ := h.journal
    obtain ⟨ms', hms', hall'⟩ := h'.journal
    refine ⟨ms ++ ms', by rw [hms', hms, List.append_assoc], List.forall_mem_append.mpr ⟨hall, ?_⟩⟩
    rwa [h.page, h.ids] at hall'

/-- The high half of the command register is of no account. -/
theorem Passes.of_high {value : UInt32} (h : Passes allowed i { s with high := value } s') :
    Passes allowed i s s' :=
  ⟨h.page, h.ids, h.others, h.journal⟩

/-- **The discipline of a processor's own time**; it also holds of a run that is stopped. -/
def passing (W : Type) (allowed : LaunchAct → Prop) (i : Nat) :
    Discipline Stop (LaunchScene W) where
  keeps := Passes allowed i
  stops s _ s' := Passes allowed i s s'
  refl _ := ⟨rfl, rfl, fun _ _ => rfl, [], (List.append_nil _).symm, nofun⟩
  trans := Passes.trans
  stops_of_keeps := Passes.trans

/-- Something that is allowed is done, and flags are raised meanwhile. -/
theorem passes_pass {act : LaunchAct} (hact : allowed act) (r : ApReply W α) (s : LaunchScene W) :
    Passes allowed i s (LaunchM.pass act r s) := by
  have hraises : s.table.Raises (LaunchM.pass act r s).table :=
    ProcessorTable.raises_foldl ProcessorTable.raises_markStarted _ _
  refine ⟨rfl, hraises.ids, fun j _ => hraises.state? j, _, rfl, ?_⟩
  exact List.forall_mem_singleton.mpr ⟨hact, rfl, rfl⟩

/-- Asking the surroundings for something that is allowed keeps to it, however they answer. -/
theorem obeys_ask {act : LaunchAct} (hact : allowed act)
    (reply : ProcessorTable → Bytes → W → ApReply W (Except Stop α)) (s : LaunchScene W) :
    (passing W allowed i).Obeys s (LaunchM.ask act reply) := by
  have hpass := passes_pass (i := i) hact (reply s.table s.page s.world) s
  unfold LaunchM.ask
  constructor
  · intro a s' hrun
    dsimp only at hrun
    split at hrun
    · cases hrun
      exact hpass
    · exact nomatch hrun
  · intro e s' hrun
    dsimp only at hrun
    split at hrun
    · exact nomatch hrun
    · cases hrun
      exact hpass

variable [LaunchWorld W]

/-- Register and port accesses are nobody's command, so any discipline that allows them serves. -/
theorem serves_passing {R P : Type} (hother : allowed .other) (window : R) (ports : P) :
    (passing W allowed i).Serves window ports where
  read32 _ := obeys_ask hother _
  read8 _ := obeys_ask hother _
  write8 _ _ := obeys_ask hother _
  stalled s := (passing W allowed i).refl s

/-! ## One command -/

variable {R P : Type}

/-- The high half is written, and is there when the low half is. -/
theorem obeys_writeHigh (hother : allowed .other) (a : LocalApic R) (value : UInt32)
    (s : LaunchScene W) :
    (passing W allowed i).Obeys s (a.write LocalApic.commandHigh value : LaunchM W Unit) := by
  have hask := obeys_ask (i := i) hother (LaunchWorld.write LocalApic.commandHigh value)
    { s with high := value }
  exact ⟨fun hrun => (hask.returns hrun).of_high, fun hrun => (hask.stops hrun).of_high⟩

/-- The destination register holds what was last written to it. -/
theorem high_writeHigh (a : LocalApic R) (value : UInt32) {u : Unit}
    (h : (a.write LocalApic.commandHigh value : LaunchM W Unit) s = .ok u s') :
    s'.high = value := by
  have hrun : LaunchM.ask .other (LaunchWorld.write LocalApic.commandHigh value)
      { s with high := value } = .ok u s' := h
  unfold LaunchM.ask at hrun
  dsimp only at hrun
  split at hrun
  · cases hrun
    rfl
  · exact nomatch hrun

/-- Writing the command register sends the command that the two registers now hold. -/
theorem obeys_writeLow (a : LocalApic R) (value : UInt32) (s : LaunchScene W)
    (hcommand : allowed (.command { low := value, high := s.high })) :
    (passing W allowed i).Obeys s (a.write LocalApic.commandLow value : LaunchM W Unit) := by
  have hask := obeys_ask (i := i) hcommand (LaunchWorld.write LocalApic.commandLow value) s
  exact ⟨fun hrun => hask.returns hrun, fun hrun => hask.stops hrun⟩

/-- **Sending a command** is allowed where the command is. -/
theorem obeys_send (hother : allowed .other) (a : LocalApic R) (command : IpiCommand)
    (hcommand : allowed (.command command)) (budget : Budget) (s : LaunchScene W) :
    (passing W allowed i).Obeys s
      (a.send command budget : LaunchM W (Except IpiError Unit)) := by
  refine (obeys_writeHigh hother a _ s).bind fun {_ s₁} hrun _ => ?_
  have hhigh : s₁.high = command.high := high_writeHigh a _ hrun
  refine (obeys_writeLow a _ s₁ (by rw [hhigh]; exact hcommand)).bind fun _ _ => ?_
  refine ((serves_passing (P := Unit) hother a.window ()).obeys_accept budget _).bind ?_
  rintro (timeout | n) s' - -
  · exact .bind (.pure _) fun _ _ => .pure _
  · exact .pure _

/-- A command goes where it was made for. -/
theorem destination_new (d : UInt8) (delivery : IpiDelivery) (vector : UInt8) (flags : UInt32) :
    (IpiCommand.new d delivery vector flags).destination = d := by
  have hd := d.toNat_lt
  rw [IpiCommand.destination, IpiCommand.new, ← UInt8.toNat_inj, UInt32.toNat_toUInt8,
    UInt32.toNat_shiftRight, UInt32.toNat_shiftLeft, UInt8.toNat_toUInt32]
  show (d.toNat <<< 24 % 2 ^ 32) >>> 24 % 2 ^ 8 = d.toNat
  rw [Nat.shiftLeft_eq, Nat.shiftRight_eq_div_pow]
  omega

/-- A destination is the APIC id itself. -/
theorem toNat_destination? {id : UInt32} {d : UInt8} (h : Launcher.destination? id = some d) :
    d.toNat = id.toNat := by
  unfold Launcher.destination? at h
  split at h
  next hsmall =>
    cases h
    rw [UInt32.toNat_toUInt8]
    exact Nat.mod_eq_of_lt hsmall
  next => exact nomatch h

/-- An INIT or STARTUP for the destination that the identifier converts to is aimed at it. -/
theorem aimedAt_command {id : UInt32} {d startPage : UInt8} {c : IpiCommand}
    (hd : Launcher.destination? id = some d) (hto : c.destination = d)
    (hkind : c = .init d ∨ c = .startup d startPage) :
    LaunchAct.AimedAt id startPage (.command c) := by
  show c.destination.toNat = id.toNat ∧ _
  rw [hto]
  exact ⟨toNat_destination? hd, hkind⟩

/-- Storing how far bring-up has come with the processor. -/
theorem obeys_mark (st : ProcessorState) (s : LaunchScene W) :
    (passing W allowed i).Obeys s (mark i st : LaunchM W Unit) := by
  refine .step rfl ⟨rfl, ProcessorTable.ids_setState _ _ _, fun j hj => ?_, [],
    (List.append_nil _).symm, nofun⟩
  exact ProcessorTable.state?_setState_of_ne st (Ne.symm hj)

/-- **What bring-up does for a processor is aimed at it.** -/
theorem permits_passing (l : Launcher R P) (cfg : BringUpConfig) (i : Nat) (id : UInt32) :
    (passing W (LaunchAct.AimedAt id cfg.startPage) i).Permits l cfg i id where
  look s := .step rfl (passes_pass trivial _ s)
  mark st s _ := obeys_mark st s
  line _ _ _ := .pure _
  sendInit s := by
    show Discipline.Obeys _ s (l.sendInit id)
    unfold Launcher.sendInit
    cases hd : Launcher.destination? id with
    | none => exact .pure _
    | some d =>
      have haimed : LaunchAct.AimedAt id cfg.startPage (.command (.init d)) :=
        aimedAt_command hd (destination_new d .init 0 IpiCommand.assertFlag) (.inl rfl)
      exact (obeys_send trivial l.localApic _ haimed l.budget s).bind fun _ _ => .pure _
  sendStartup s := by
    show Discipline.Obeys _ s (l.sendStartup id cfg.startPage)
    unfold Launcher.sendStartup
    cases hd : Launcher.destination? id with
    | none => exact .pure _
    | some d =>
      have haimed : LaunchAct.AimedAt id cfg.startPage (.command (.startup d cfg.startPage)) :=
        aimedAt_command hd (destination_new d .startup cfg.startPage IpiCommand.assertFlag)
          (.inr rfl)
      exact (obeys_send trivial l.localApic _ haimed l.budget s).bind fun _ _ => .pure _
  delay us s := (serves_passing trivial l.localApic.window l.ports).obeys_pollDelay _ _ s
  relax _ := .pure _

/-- **Nothing that counts is done** for a processor that could not be prepared. -/
theorem obeys_unprepared (l : Launcher R P) (cfg : BringUpConfig) (i : Nat) (id : UInt32)
    (e : BringUpError) (s : LaunchScene W) :
    (passing W (· = .other) i).Obeys s
      (afterPrepare l cfg i id (.error e) : LaunchM W Bool) :=
  .bind (.pure _) fun _ _ => (obeys_mark _ _).bind fun _ _ => .pure _

end Passing

/-! ## One processor -/

section OneProcessor

variable {W α : Type} {s s' s'' : LaunchScene W} {offset : UInt64}

/-- **A stretch of a run**: what was done in it, and what it left alone. -/
structure Extends (offset : UInt64) (s : LaunchScene W) (ms : List LaunchMoment)
    (s' : LaunchScene W) : Prop where
  /-- These are the moments of the stretch. -/
  journal : s'.journal = s.journal ++ ms
  ids : s'.table.ids = s.table.ids
  /-- The code on the page is the installed one at the end. -/
  image : Trampoline.SameImage offset s.page s'.page
  /-- And it is at every moment on the way. -/
  moments : ∀ m ∈ ms, Trampoline.SameImage offset s.page m.page

/-- What two stretches of a journal say of the page and of the identifiers holds across both. -/
theorem Extends.append {ms ms' : List LaunchMoment} (h : Extends offset s ms s')
    (h' : Extends offset s' ms' s'') : Extends offset s (ms ++ ms') s'' where
  journal := by rw [h'.journal, h.journal, List.append_assoc]
  ids := h'.ids.trans h.ids
  image := h.image.trans h'.image
  moments := List.forall_mem_append.mpr
    ⟨h.moments, fun m hm => h.image.trans (h'.moments m hm)⟩

theorem Extends.nil (offset : UInt64) (s : LaunchScene W) : Extends offset s [] s :=
  ⟨(List.append_nil _).symm, rfl, .refl _ _, nofun⟩

/-- While time passes the page stays. -/
theorem Passes.extends {allowed : LaunchAct → Prop} {i : Nat} (h : Passes allowed i s s')
    (offset : UInt64) :
    ∃ ms, Extends offset s ms s' ∧ ∀ m ∈ ms, allowed m.act ∧ m.page = s.page
      ∧ m.table.ids = s.table.ids := by
  obtain ⟨ms, hms, hall⟩ := h.journal
  exact ⟨ms, ⟨hms, h.ids, h.page ▸ .refl _ _, fun m hm => (hall m hm).2.1 ▸ .refl _ _⟩, hall⟩

/-- One moment. -/
theorem extends_pass (offset : UInt64) (act : LaunchAct) (r : ApReply W α) (s : LaunchScene W) :
    Extends offset s [⟨act, s.table, s.page⟩] (LaunchM.pass act r s)
      ∧ ∀ j, (LaunchM.pass act r s).table.state? j = s.table.state? j := by
  have hraises : s.table.Raises (LaunchM.pass act r s).table :=
    ProcessorTable.raises_foldl ProcessorTable.raises_markStarted _ _
  exact ⟨⟨rfl, hraises.ids, .refl _ _, List.forall_mem_singleton.mpr (.refl _ _)⟩,
    hraises.state?⟩

/-- **A discipline holds of the scene that is left**, if stopping is no excuse. -/
theorem Discipline.Obeys.scene {D : Discipline Stop (LaunchScene W)} {x : LaunchM W α}
    (h : D.Obeys s x) (hstops : ∀ {e s'}, D.stops s e s' → D.keeps s s') :
    D.keeps s (LaunchM.scene (x s)) := by
  cases hrun : x s with
  | ok a s' => exact h.returns hrun
  | error e s' => exact hstops (h.stops hrun)

variable {R P : Type}

/-- **How a processor is prepared.** -/
inductive Prepares (l : Launcher R P) (offset : UInt64) (i : Nat) (s : LaunchScene W) :
    EStateM.Result Stop (LaunchScene W) (Except BringUpError Unit) → Prop
  /-- There is no memory for a stack. -/
  | refused (r : ApReply W (Option UInt64)) :
      Prepares l offset i s (.ok (.error .outOfMemory) (LaunchM.pass (.stack none) r s))
  /-- The stack ends where there is no address. -/
  | stopped (base : UInt64) (e : Stop) (r : ApReply W (Option UInt64)) :
      Prepares l offset i s (.error e (LaunchM.pass (.stack (some base)) r s))
  /-- The parameters are written into the block. -/
  | granted (base top : UInt64) (r : ApReply W (Option UInt64)) :
      Prepares l offset i s (.ok (.ok ())
        { LaunchM.pass (.stack (some base)) r s with
          page := Trampoline.writeParams s.page offset (l.paramsFor i top) })

/-- Parameters at the address of the block are written into the block. -/
theorem placed_block {page : Bytes} (p : LaunchParams)
    (hoffset : offset.toNat ≤ Trampoline.pageSize) :
    LaunchM.placed page (Trampoline.physAddress + offset) p.encode
      = Trampoline.writeParams page offset p := by
  have habove : ¬Trampoline.physAddress + offset < Trampoline.physAddress := by
    rw [UInt64.lt_iff_toNat_lt, Trampoline.toNat_physAddress_add hoffset]
    omega
  rw [LaunchM.placed, if_neg habove, UInt64.add_comm, UInt64.add_sub_cancel]
  rfl

variable [LaunchWorld W]

/-- A look at the table. -/
theorem extends_looked (offset : UInt64) (s : LaunchScene W) :
    Extends offset s [⟨.other, s.table, s.page⟩] (LaunchM.looked s)
      ∧ ∀ j, (LaunchM.looked s).table.state? j = s.table.state? j :=
  extends_pass offset .other _ s

/-- Preparing a processor either writes its parameters over the block or leaves the page alone. -/
theorem prepare_prepares (l : Launcher R P)
    (hblock : l.blockAddress = Trampoline.physAddress + offset)
    (hoffset : offset.toNat ≤ Trampoline.pageSize) (i : Nat) (id : UInt32) (s : LaunchScene W) :
    Prepares l offset i s ((l.prepare i id : LaunchM W (Except BringUpError Unit)) s) := by
  generalize hr : LaunchWorld.allocate Launcher.stackSize s.table s.page s.world = r
  have hstack : (StackSource.allocate Launcher.stackSize : LaunchM W (Option UInt64)) s
      = .ok r.answer (LaunchM.pass (.stack r.answer) r s) := by
    rw [← hr]
    rfl
  unfold Launcher.prepare Launcher.allocateStack
  rw [bind_apply, bind_apply, hstack]
  cases r.answer with
  | none => exact .refused r
  | some base =>
    dsimp only
    rw [bind_apply, addWord64]
    -- the top of the stack is computed with a checked sum, and a stack without one stops the run
    by_cases hfits : base.toNat + (UInt64.ofNat Launcher.stackSize).toNat < UInt64.size
    · rw [if_pos hfits]
      have hgranted : Prepares l offset i s _ :=
        .granted base ((base + UInt64.ofNat Launcher.stackSize) &&& ~~~(0xf : UInt64)) r
      rw [← placed_block _ hoffset, ← hblock] at hgranted
      exact hgranted
    · rw [if_neg hfits]
      exact .stopped base _ r

/-- Whoever is in the table and raises its flag has raised it. -/
theorem isStarted_markStarted {t : ProcessorTable} {i : Nat} {id : UInt32}
    (h : t.ids[i]? = some id) : (t.markStarted i).isStarted i = true := by
  rw [ProcessorTable.ids, List.getElem?_map, Option.map_eq_some_iff] at h
  obtain ⟨p, hp, -⟩ := h
  have hget : t.get? i = some p := hp
  rw [ProcessorTable.isStarted_eq_true, ProcessorTable.markStarted, ProcessorTable.get?_modify,
    if_pos rfl, hget]
  exact ⟨_, rfl, rfl⟩

/-- A page with the parameters for a position is for that position, whatever the flags are. -/
theorem LaunchMoment.IsFor.of_page {l : Launcher R P} {m : LaunchMoment} {page : Bytes} {i : Nat}
    {id : UInt32} {top : UInt64} (hinside : offset.toNat + LaunchParams.size ≤ page.length)
    (hpage : m.page = Trampoline.writeParams page offset (l.paramsFor i top))
    (hid : m.table.ids[i]? = some id) (hi : i < UInt64.size) : m.IsFor l.template offset i := by
  -- what the processor finds is read back from the bytes of the page
  have hread : Trampoline.readParams m.page offset = l.paramsFor i top :=
    hpage ▸ Trampoline.readParams_writeParams hinside _
  have hindex : (l.paramsFor i top).cpuIndex.toNat = i := UInt64.toNat_ofNat_of_lt' hi
  constructor <;> rw [hread]
  · exact hindex
  · rfl
  · rfl
  · rfl
  · rfl
  · rw [hindex]
    exact isStarted_markStarted hid

/-- **Starting one processor makes its word**, and leaves the others' states alone. -/
theorem startOne_word (l : Launcher R P) (hblock : l.blockAddress = Trampoline.physAddress + offset)
    (hinside : offset.toNat + LaunchParams.size ≤ s.page.length)
    (hpage : s.page.length = Trampoline.pageSize) (cfg : BringUpConfig) {i : Nat} {id : UInt32}
    (hid : s.table.ids[i]? = some id) (hi : i < UInt64.size) :
    let s' := LaunchM.scene ((startOne l cfg i id : LaunchM W Bool) s)
    ∃ w, LaunchWord l.template offset cfg.startPage i id w ∧ Extends offset s w s'
      ∧ ∀ j, j ≠ i → s'.table.state? j = s.table.state? j := by
  have hprepares : Prepares l offset i s
      ((ApControl.prepare l i id : LaunchM W (Except BringUpError Unit)) s) :=
    prepare_prepares l hblock (by omega) i id s
  dsimp only
  rw [startOne_eq, bind_apply]
  generalize (ApControl.prepare l i id : LaunchM W (Except BringUpError Unit)) s = result
    at hprepares ⊢
  -- A stack is asked for first; the rest is told by a discipline.
  cases hprepares with
  | refused r =>
    obtain ⟨hextends, hothers⟩ := extends_pass offset (.stack none) r s
    have hpasses := (obeys_unprepared l cfg i id .outOfMemory
      (LaunchM.pass (.stack none) r s)).scene fun h => h
    obtain ⟨ms, hrest, hquiet⟩ := hpasses.extends offset
    exact ⟨_, .refused rfl fun m hm => (hquiet m hm).1, hextends.append hrest,
      fun j hj => (hpasses.others j hj).trans (hothers j)⟩
  | stopped base e r =>
    obtain ⟨hextends, hothers⟩ := extends_pass offset (.stack (some base)) r s
    exact ⟨_, .granted rfl fun m hm => absurd hm List.not_mem_nil, hextends, fun j _ => hothers j⟩
  | granted base top r =>
    obtain ⟨hextends, hothers⟩ := extends_pass offset (.stack (some base)) r s
    have hwritten := Trampoline.sameImage_writeParams hinside (l.paramsFor i top)
    generalize hpassed : LaunchM.pass (.stack (some base)) r s = s₁ at hextends hothers ⊢
    have hfirst : Extends offset s [⟨.stack (some base), s.table, s.page⟩]
        { s₁ with page := Trampoline.writeParams s.page offset (l.paramsFor i top) } :=
      ⟨hextends.journal, hextends.ids, hwritten, hextends.moments⟩
    have hpasses := ((permits_passing l cfg i id).obeys_afterPrepare (.ok ())
      { s₁ with page := Trampoline.writeParams s.page offset (l.paramsFor i top) }).scene fun h => h
    obtain ⟨ms, hrest, haimed⟩ := hpasses.extends offset
    refine ⟨_, .granted rfl fun m hm => ?_, hfirst.append hrest,
      fun j hj => (hpasses.others j hj).trans (hothers j)⟩
    obtain ⟨hact, hpage', hids⟩ := haimed m hm
    exact ⟨hact, .of_page hinside hpage' (hids.trans hextends.ids ▸ hid) hi⟩

end OneProcessor

/-! ## All processors -/

section AllProcessors

variable {W α R P : Type} {s s₁ : LaunchScene W} {offset : UInt64}

/-- **What the journal tells of a run** from a scene on: the words of the processors at some
positions. -/
def TellsOf (l : Launcher R P) (offset : UInt64) (cfg : BringUpConfig) (ids : List UInt32)
    (positions : List Nat) (s : LaunchScene W) (r : EStateM.Result Stop (LaunchScene W) α) : Prop :=
  ∃ ms, Launches l.template offset cfg.startPage ids (∃ a s', r = .ok a s') positions ms
    ∧ Extends offset s ms (LaunchM.scene r)

variable {l : Launcher R P} {cfg : BringUpConfig} {ids : List UInt32} {positions : List Nat}
  {r : EStateM.Result Stop (LaunchScene W) α}

/-- Looking at the table sends nothing and changes nothing that is told. -/
theorem TellsOf.look {m : LaunchMoment} (hm : m.act = .other) (hlook : Extends offset s [m] s₁)
    (h : TellsOf l offset cfg ids positions s₁ r) : TellsOf l offset cfg ids positions s r := by
  obtain ⟨ms, hlaunches, hextends⟩ := h
  exact ⟨m :: ms, hlaunches.look hm, hlook.append hextends⟩

/-- The word of a processor goes in front of what is told of the processors after it. -/
theorem TellsOf.word {i : Nat} {id : UInt32} {w : List LaunchMoment} (listed : ids[i]? = some id)
    (hword : LaunchWord l.template offset cfg.startPage i id w) (hw : Extends offset s w s₁)
    (h : TellsOf l offset cfg ids positions s₁ r) :
    TellsOf l offset cfg ids (i :: positions) s r := by
  obtain ⟨ms, hlaunches, hextends⟩ := h
  have hnone : ∀ m ∈ ([] : List LaunchMoment), m.act = .other := nofun
  exact ⟨_, .word listed hnone hword hlaunches, hw.append hextends⟩

/-- A run that is stopped has come as far as it has. -/
theorem TellsOf.stopped (e : Stop) (s : LaunchScene W) :
    TellsOf (α := α) l offset cfg ids positions s (.error e s) := by
  refine ⟨[], .ends nofun ?_, .nil offset s⟩
  rintro ⟨a, s', ⟨⟩⟩

variable [LaunchWorld W]

/-- **A sweep makes the words of the pending processors**, as far as it comes. -/
theorem startFrom_tellsOf (l : Launcher R P)
    (hblock : l.blockAddress = Trampoline.physAddress + offset)
    (hinside : offset.toNat + LaunchParams.size ≤ Trampoline.pageSize) (cfg : BringUpConfig)
    {t : ProcessorTable} (hsize : t.size ≤ ProcessorTable.capacity)
    (left index started abandoned : Nat) (s : LaunchScene W)
    (hpage : s.page.length = Trampoline.pageSize) (hids : s.table.ids = t.ids)
    (hlater : ∀ j, index ≤ j → s.table.state? j = t.state? j) :
    TellsOf l offset cfg t.ids (t.pendingFrom index left) s
      ((startFrom l cfg left index started abandoned : LaunchM W (Nat × Nat)) s) := by
  induction left generalizing index started abandoned s with
  | zero => exact ⟨[], .ends nofun fun _ => rfl, .nil offset s⟩
  | succ left ih =>
    -- The table is looked at once before each processor, and flags may be raised by then.
    obtain ⟨hlook, hstates⟩ := extends_looked offset s
    unfold startFrom
    rw [LaunchM.look_bind]
    generalize LaunchM.looked s = s₁ at hlook hstates
    refine .look rfl hlook ?_
    have hpage₁ : s₁.page.length = Trampoline.pageSize := hlook.image.length.trans hpage
    have hids₁ : s₁.table.ids = t.ids := hlook.ids.trans hids
    have hlater₁ : ∀ j, index ≤ j → s₁.table.state? j = t.state? j := fun j hj =>
      (hstates j).trans (hlater j hj)
    rw [ProcessorTable.pendingFrom_succ]
    have hskip : t.state? index ≠ some .discovered →
        TellsOf l offset cfg t.ids (if t.state? index = some .discovered
            then index :: t.pendingFrom (index + 1) left else t.pendingFrom (index + 1) left) s₁
          ((startFrom l cfg left (index + 1) started abandoned : LaunchM W (Nat × Nat)) s₁) := by
      intro hother
      rw [if_neg hother]
      exact ih _ _ _ s₁ hpage₁ hids₁ fun j hj => hlater₁ j (Nat.le_of_succ_le hj)
    cases hget : s₁.table.get? index with
    | none =>
      refine hskip ?_
      rw [← hlater₁ index (Nat.le_refl _), ProcessorTable.state?, hget]
      rintro ⟨⟩
    | some p =>
      have hstate : t.state? index = some p.state :=
        (hlater₁ index (Nat.le_refl _)).symm.trans (ProcessorTable.state?_get? hget)
      dsimp only
      by_cases hpending : p.state = .discovered
      · rw [if_pos hpending, if_pos (hstate.trans (congrArg some hpending)), bind_apply]
        have hid : s₁.table.ids[index]? = some p.apicId := ProcessorTable.ids_get? hget
        have hfew : index < UInt64.size := by
          have hlisted : index < t.ids.length :=
            hids₁ ▸ (List.getElem?_eq_some_iff.mp hid).1
          have hcount : t.ids.length = t.size := List.length_map _
          have hcapacity : ProcessorTable.capacity < UInt64.size := by decide
          omega
        obtain ⟨w, hword, hextends, hothers⟩ :=
          startOne_word l hblock (hpage₁ ▸ hinside) hpage₁ cfg hid hfew
        generalize (startOne l cfg index p.apicId : LaunchM W Bool) s₁ = result at hextends hothers
        refine .word (hids₁ ▸ hid) hword hextends ?_
        cases result with
        | ok online s₂ =>
          have hlater₂ : ∀ j, index + 1 ≤ j → s₂.table.state? j = t.state? j := fun j hj =>
            (hothers j (Nat.ne_of_gt hj)).trans (hlater₁ j (Nat.le_of_succ_le hj))
          have hrest := fun started abandoned => ih (index + 1) started abandoned s₂
            (hextends.image.length.trans hpage₁) (hextends.ids.trans hids₁) hlater₂
          cases online with
          | true => exact hrest _ _
          | false => exact hrest _ _
        | error e s₂ => exact .stopped e s₂
      · rw [if_neg hpending]
        exact hskip fun hdiscovered =>
          hpending (Option.some.inj (hstate.symm.trans hdiscovered))

/-- **So does bring-up.** -/
theorem run_tellsOf (l : Launcher R P) (hblock : l.blockAddress = Trampoline.physAddress + offset)
    (hinside : offset.toNat + LaunchParams.size ≤ Trampoline.pageSize) (cfg : BringUpConfig)
    (hsize : s.table.size ≤ ProcessorTable.capacity)
    (hpage : s.page.length = Trampoline.pageSize) :
    TellsOf l offset cfg s.table.ids s.table.pending s
      ((run l cfg : LaunchM W BringUp) s) := by
  -- the first look may raise flags, so the count is taken in the table after it
  obtain ⟨hlook, hstates⟩ := extends_looked offset s
  unfold run
  rw [LaunchM.look_bind]
  have hcount : (LaunchM.looked s).table.size = s.table.size := by
    have hlength := congrArg List.length hlook.ids
    rwa [ProcessorTable.ids, ProcessorTable.ids, List.length_map, List.length_map] at hlength
  generalize LaunchM.looked s = s₁ at hlook hstates hcount
  refine .look rfl hlook ?_
  rw [hcount]
  by_cases hfew : s.table.size < 2
  · rw [if_pos hfew]
    refine ⟨[], .ends nofun fun _ => ?_, .nil offset s₁⟩
    rw [ProcessorTable.pending, Nat.sub_eq_zero_of_le (Nat.le_of_lt_succ hfew)]
    rfl
  · rw [if_neg hfew, bind_apply]
    obtain ⟨ms, hlaunches, hextends⟩ := startFrom_tellsOf l hblock hinside cfg hsize
      (s.table.size - 1) 1 0 0 s₁ (hlook.image.length.trans hpage) hlook.ids fun j _ => hstates j
    generalize (startFrom l cfg (s.table.size - 1) 1 0 0 : LaunchM W (Nat × Nat)) s₁ = result
      at hlaunches hextends
    refine ⟨ms, hlaunches.imp ?_, ?_⟩
    · rintro ⟨outcome, s', hreturned⟩
      cases result with
      | ok counts s₂ => exact ⟨_, _, rfl⟩
      | error e s₂ => exact nomatch hreturned
    · cases result with
      | ok counts s₂ => exact hextends
      | error e s₂ => exact hextends

/-- **Bring-up is aimed.** It runs in any world, on any table that is not larger than it can be,
with an image installed in the trampoline page. Then, as far as it comes before it returns or is
stopped, it makes the words of the pending processors: none is sent a command without a stack, and
every command to one that has a stack is an INIT or a STARTUP to that processor, sent while the
block tells its position. The rest of the page is always what was installed. -/
theorem run_aims (l : Launcher R P) (cfg : BringUpConfig) (image : TrampolineImage)
    (page installed : Bytes) (t : ProcessorTable) (w : W)
    (hpage : page.length = Trampoline.pageSize)
    (hcopy : (Trampoline.copyTo page image : Except Stop _) = .ok (.ok installed))
    (hblock : l.blockAddress = Trampoline.physAddress + image.paramsOffset)
    (hsize : t.size ≤ ProcessorTable.capacity) :
    let r := (run l cfg : LaunchM W BringUp) { world := w, table := t, page := installed }
    let s := LaunchM.scene r
    Launches l.template image.paramsOffset cfg.startPage t.ids (∃ outcome s', r = .ok outcome s')
        t.pending s.journal
      ∧ (∀ m ∈ s.journal, ∀ c, m.act = .command c → ∃ i ∈ t.pending, ∃ id, t.ids[i]? = some id
          ∧ m.act.AimedAt id cfg.startPage ∧ m.IsFor l.template image.paramsOffset i)
      ∧ (∀ m ∈ s.journal, Trampoline.SameImage image.paramsOffset installed m.page)
      ∧ Trampoline.SameImage image.paramsOffset installed s.page := by
  obtain ⟨hblockInside, hfits, rfl⟩ := Trampoline.copyTo_eq_ok hcopy
  -- copying an image that fits keeps the length of the page
  have hinstalled : (Trampoline.copied page image).length = Trampoline.pageSize := by
    rw [Trampoline.copied, Bytes.length_overwrite (by omega), hpage]
  obtain ⟨ms, hlaunches, hextends⟩ := run_tellsOf (W := W)
    (s := { world := w, table := t, page := Trampoline.copied page image }) l hblock (by omega) cfg
    hsize hinstalled
  have hjournal : (LaunchM.scene ((run l cfg : LaunchM W BringUp)
      { world := w, table := t, page := Trampoline.copied page image })).journal = ms :=
    hextends.journal
  dsimp only
  rw [hjournal]
  exact ⟨hlaunches, fun m hm c hc => hlaunches.aimed hm hc, hextends.moments, hextends.image⟩

end AllProcessors

/-- The commands that were sent, in order. -/
def LaunchScene.commands {W : Type} (s : LaunchScene W) : List IpiCommand :=
  s.journal.filterMap fun m => match m.act with
    | .command c => some c
    | _ => none

namespace Awake

/-- A world in which every command is accepted, and whoever runs from the page raises at once the
flag that the block tells. -/
instance : LaunchWorld Unit where
  read _ _ _ _ := ⟨.ok 0, [], ()⟩
  write _ _ _ _ _ := ⟨.ok (), [], ()⟩
  readPort _ _ _ _ := ⟨.ok 0, [], ()⟩
  writePort _ _ _ _ _ := ⟨.ok (), [], ()⟩
  allocate _ _ _ _ := ⟨some 0x100000, [], ()⟩
  look _ page _ := ⟨(), [(Trampoline.readParams page 40).cpuIndex.toNat], ()⟩

/-- An image of 128 bytes with the block at offset 40, and a page of zeros. -/
def image : TrampolineImage :=
  { bytes := List.replicate 128 0x90, paramsOffset := 40 }

@[inherit_doc image] def page : Bytes :=
  List.replicate Trampoline.pageSize 0

/-- The launcher for that image. -/
def launcher : Launcher Unit Unit where
  localApic := { window := (), physBase := 0xfee00000 }
  ports := ()
  blockAddress := 0x8028
  budget := ⟨1⟩
  template := { cr3 := 0x1000, entry := 0xffffffff80000000, gdtLimit := 0x37, gdtBase := 0x2000 }

/-- The boot processor and two others. -/
def table : ProcessorTable :=
  (({} : ProcessorTable).discover 0 [4, 7]).2

/-- No delays. -/
def pacing : BringUpConfig :=
  { initDelay := 0, startupDelay := 0, startupWait := ⟨1⟩ }

end Awake

open Awake in
/-- Both processors are started, the one after the other, and are told their positions. -/
theorem run_aims_awake :
    let r := (run launcher pacing : LaunchM Unit BringUp)
      { world := (), table, page := Trampoline.copied page image }
    (LaunchM.scene r).commands = [.init 4, .startup 4 8, .init 7, .startup 7 8]
      ∧ Launches launcher.template 40 8 table.ids (∃ outcome s', r = .ok outcome s') [1, 2]
        (LaunchM.scene r).journal := by
  have hcopy : (Trampoline.copyTo page image : Except Stop _)
      = .ok (.ok (Trampoline.copied page image)) := by
    have hlength : image.bytes.length = 128 := List.length_replicate
    unfold Trampoline.copyTo Trampoline.check
    rw [hlength]
    rfl
  have haims := run_aims launcher pacing image page (Trampoline.copied page image) table ()
    List.length_replicate hcopy rfl (by decide)
  exact ⟨by decide +kernel, haims.1⟩

end Interrupts
