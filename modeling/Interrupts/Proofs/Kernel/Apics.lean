import Interrupts.Proofs.Kernel.Programming
import Interrupts.Proofs.OneShot

/-!
# Bringing the APICs up

Bringing the APICs up can be given up at any of several points, and what was done by then stays
done. `Tried` tells the three ways in which an attempt ends that matter for who is in charge: no
Local APIC came up, and nothing was stored; one came up without an I/O APIC, and its last two
stores let the 8259 pair through; or both came up. `tryApics_tried` says that there is no fourth.

An attempt fills cells of the kernel on its way, so it is not made of deeds alone. `Progress` is
what can be said of every stretch of it: the deeds, with the pair and the lines known as before.
Each stretch has a lemma that lists its outcomes, and the three ways are put together from these.
-/

namespace Interrupts

open Boot

variable {X : Surroundings} {k k' k'' : Kernel (Watched X)}
  {deeds deeds' : List HardwareEvent}

theorem isCell_localApicSlot : (localApicSlot (X := X)).IsCell Kernel.localApic
    (fun c k => { k with localApic := c }) :=
  ⟨fun _ => rfl, fun _ _ => rfl⟩

theorem isCell_ioApicSlot : (ioApicSlot (X := X)).IsCell Kernel.ioApic
    (fun c k => { k with ioApic := c }) :=
  ⟨fun _ => rfl, fun _ _ => rfl⟩

theorem isCell_apicControllerSlot : (apicControllerSlot (X := X)).IsCell
    Kernel.apicController (fun c k => { k with apicController := c }) :=
  ⟨fun _ => rfl, fun _ _ => rfl⟩

/-! ## Progress -/

namespace Kernel

/-- **What was done while cells were being filled**: these are the deeds, and the 8259 pair and the
lines are known as before. -/
structure Progress (k : Kernel (Watched X)) (deeds : List HardwareEvent)
    (k' : Kernel (Watched X)) : Prop where
  /-- The hardware saw these deeds. -/
  added : Added k deeds k'
  pic : k'.pic = k.pic
  registry : k'.registry = k.registry

theorem Did.progress (h : Did k deeds k') : Progress k deeds k' :=
  ⟨h.added, h.pic, h.registry⟩

namespace Progress

/-- What was done first, and what was done then. -/
theorem trans (h : Progress k deeds k') (h' : Progress k' deeds' k'') :
    Progress k (deeds ++ deeds') k'' where
  added := h.added.trans h'.added
  pic := h'.pic.trans h.pic
  registry := h'.registry.trans h.registry

/-- The cells of a state do not matter. -/
theorem congr {l : Kernel (Watched X)} (h : Progress k deeds k')
    (hhardware : l.hardware = k'.hardware) (hpic : l.pic = k'.pic)
    (hregistry : l.registry = k'.registry) : Progress k deeds l :=
  ⟨h.added.congr hhardware, hpic.trans h.pic, hregistry.trans h.registry⟩

/-- Nothing was done in the second part. -/
theorem then_nothing (h : Progress k deeds k') (h' : Progress k' [] k'') :
    Progress k deeds k'' := by
  have hboth := h.trans h'
  rwa [List.append_nil] at hboth

end Progress

end Kernel

variable [Behaviour X] {T : Type} [Acpi.PlatformTables T] {u : Unit}

/-! ## The Local APIC -/

namespace Kernel

/-- Switching the Local APIC on is done by a model-specific register, which is no deed. -/
theorem did_enableGlobal {phys : UInt64} (h : enableGlobal (X := Watched X) k = .ok phys k') :
    Did k [] k' := by
  obtain ⟨base, k₁, hread, h⟩ := bind_eq_ok.mp h
  -- reading the base register of the Local APIC is nothing that the devices see
  have hasked : Did k [] k₁ := by
    cases hread
    exact .of_unseen rfl
  split at h
  · obtain ⟨_, k₂, hwrite, h⟩ := bind_eq_ok.mp h
    obtain ⟨_, k₃, hlog, h⟩ := bind_eq_ok.mp h
    obtain ⟨-, rfl⟩ := pure_eq_ok.mp h
    have hswitched : Did k₁ [] k₂ := by
      cases hwrite
      exact .of_unseen rfl
    exact (hasked.trans hswitched).trans (did_log hlog)
  · obtain ⟨-, rfl⟩ := pure_eq_ok.mp h
    exact hasked

omit [Behaviour X] in
/-- A computation on the pair puts back what it makes of it. -/
theorem onPic_eq_ok {f : Pic MachinePorts → Boot (Watched X) (Pic MachinePorts)}
    (h : onPic f k = .ok u k') : ∃ p k₁, f k.pic k = .ok p k₁ ∧ k' = { k₁ with pic := p } := by
  obtain ⟨_, _, ⟨⟩, h⟩ := bind_eq_ok.mp h
  obtain ⟨p, k₁, hf, hupdate⟩ := bind_eq_ok.mp h
  cases hupdate
  exact ⟨p, k₁, hf, rfl⟩

/-- Mapping a window changes nothing that belongs to the kernel. -/
theorem eq_of_mapDevice {paging : KernelPaging (Watched X)} {phys length : UInt64}
    {reply : Except PagingError UInt64}
    (h : Paging.mapDevice (m := Boot (Watched X)) paging phys length k = .ok reply k') :
    k' = k := by
  cases paging <;> cases h <;> rfl

/-- Mapping a window changes nothing. -/
theorem eq_of_windowMap {paging : KernelPaging (Watched X)} {phys size : UInt64}
    {reply : Except PagingError Window}
    (h : Window.map (m := Boot (Watched X)) paging phys size k = .ok reply k') : k' = k := by
  unfold Window.map at h
  split at h
  · exact (pure_eq_ok.mp h).2.symm
  · obtain ⟨r, k₁, hmap, h⟩ := bind_eq_ok.mp h
    obtain rfl := eq_of_mapDevice hmap
    cases r with
    | error e => exact (pure_eq_ok.mp h).2.symm
    | ok virt => exact (pure_eq_ok.mp h).2.symm

end Kernel

/-- **What is done to the 8259 pair before the APICs are used**: if there is one, it is programmed
and masked. -/
def Pic.IsSilencedBy (p : Pic MachinePorts) : (legacyPics : Bool) → (deeds : List HardwareEvent) →
    Prop
  | true, deeds => ∃ masterMask slaveMask,
    deeds = programming p.master p.slave masterMask slaveMask ++ masking 0xff
  | false, deeds => deeds = []

/-- The chips are not programmed through registers. -/
theorem Pic.storesNothing_programming (masterBase slaveBase masterMask slaveMask mask : UInt8) :
    StoresNothing (programming masterBase slaveBase masterMask slaveMask ++ masking mask) := by
  intro address value
  simp [programming, masking]

omit [Behaviour X] in
/-- Silencing the pair takes ports, and no registers. -/
theorem Pic.IsSilencedBy.storesNothing {p : Pic MachinePorts} {legacyPics : Bool}
    (h : p.IsSilencedBy legacyPics deeds) : StoresNothing deeds := by
  cases legacyPics with
  | true =>
    obtain ⟨masterMask, slaveMask, rfl⟩ := h
    exact storesNothing_programming _ _ _ _ _
  | false =>
    rw [show deeds = [] from h]
    exact fun _ _ => List.not_mem_nil

namespace Kernel

omit [Behaviour X] in
/-- What was done to the 8259 pair does not show in what is known of it. -/
theorem Did.progress_onPic (h : Did k deeds k') : Progress k deeds { k' with pic := k.pic } :=
  ⟨h.added, rfl, h.registry⟩

/-- Silencing the pair, before going on. -/
theorem silence_eq_ok {α : Type} {legacyPics : Bool} {rest : Unit → Boot (Watched X) α} {r : α}
    (h : (if legacyPics then onPic Pic.disable >>= rest else rest ()) k = .ok r k') :
    ∃ deeds k₁, k.pic.IsSilencedBy legacyPics deeds ∧ Progress k deeds k₁
      ∧ k₁.localApic = k.localApic ∧ rest () k₁ = .ok r k' := by
  cases legacyPics with
  | true =>
    obtain ⟨_, k₁, honPic, h⟩ := bind_eq_ok.mp h
    obtain ⟨p, k₂, hdisable, rfl⟩ := onPic_eq_ok honPic
    obtain ⟨masterMask, slaveMask, hdid, rfl⟩ := did_disablePic hdisable
    exact ⟨_, { k₂ with pic := k.pic }, ⟨masterMask, slaveMask, rfl⟩,
      hdid.progress_onPic, hdid.localApic, h⟩
  | false => exact ⟨[], k, rfl, (Did.refl k).progress, rfl, h⟩

/-- **Bringing up the Local APIC** fails before anything is stored, or enables it. -/
theorem initLocalApic_cases {paging : KernelPaging (Watched X)} {legacyPics : Bool}
    {reply : Except LocalApicError (LocalApic Window)} (hfree : k.localApic = .unclaimed)
    (h : initLocalApic paging legacyPics k = .ok reply k') :
    (∃ e deeds, reply = .error e ∧ Progress k deeds k' ∧ StoresNothing deeds
        ∧ k'.localApic.get? = none)
      ∨ ∃ a silencing destination spurious, reply = .ok a ∧ k'.localApic = .ready a
        ∧ k.pic.IsSilencedBy legacyPics silencing
        ∧ Progress k (silencing ++ a.stores (LocalApic.enabling destination spurious
          ++ [(LocalApic.endOfInterrupt, 0)])) k' := by
  obtain ⟨_, _, ⟨⟩, h⟩ := bind_eq_ok.mp h
  split at h
  · obtain ⟨_, k₁, hlog, h⟩ := bind_eq_ok.mp h
    obtain ⟨rfl, rfl⟩ := pure_eq_ok.mp h
    refine .inl ⟨_, [], rfl, (did_log hlog).progress, fun _ _ => List.not_mem_nil, ?_⟩
    rw [(did_log hlog).localApic, hfree]
    rfl
  obtain ⟨_, _, ⟨⟩, h⟩ := bind_eq_ok.mp h
  rw [hfree] at h
  obtain ⟨_, k₁, hlog, h⟩ := bind_eq_ok.mp h
  obtain ⟨phys, k₂, hglobal, h⟩ := bind_eq_ok.mp h
  have hswitched := (did_log hlog).trans (did_enableGlobal hglobal)
  obtain ⟨silencing, k₃, hsilencing, hsilenced, hcell, h⟩ := silence_eq_ok h
  rw [hswitched.pic] at hsilencing
  have hbefore := hswitched.progress.trans hsilenced
  have hclaimable : k₃.localApic = .unclaimed := by rw [hcell, hswitched.localApic, hfree]
  -- The pair is silenced before the window is mapped, so a failure to map it leaves deeds behind.
  obtain ⟨mapped, k₄, hmapped, h⟩ := bind_eq_ok.mp h
  rcases Slot.tryInit_cases isCell_localApicSlot hmapped with
    ⟨hclaimed, -⟩ | ⟨a, k₅, hmap, rfl, hk₄⟩ | ⟨e, k₅, hmap, rfl, hk₄⟩
  · rw [hclaimable] at hclaimed
    exact nomatch hclaimed
  · obtain ⟨r, k₆, hwindow, hmap⟩ := bind_eq_ok.mp hmap
    obtain rfl := eq_of_windowMap hwindow
    cases r with
    | error e => exact nomatch hmap
    | ok w =>
      obtain ⟨-, rfl⟩ := pure_eq_ok.mp hmap
      have hready : k₄.localApic = .ready a := by rw [hk₄]
      have hfilled : Progress k silencing k₄ := by
        rw [hk₄]
        exact hbefore.congr rfl rfl rfl
      obtain ⟨_, k₇, henable, h⟩ := bind_eq_ok.mp h
      obtain ⟨_, k₈, heoi, h⟩ := bind_eq_ok.mp h
      obtain ⟨_, _, ⟨⟩, h⟩ := bind_eq_ok.mp h
      obtain ⟨_, k₉, hphys, h⟩ := bind_eq_ok.mp h
      obtain ⟨_, k₁₀, hdone, h⟩ := bind_eq_ok.mp h
      obtain ⟨rfl, rfl⟩ := pure_eq_ok.mp h
      obtain ⟨destination, spurious, henabled⟩ := did_enableApic henable
      have hstored := henabled.trans (did_write heoi)
      have hknown : Did k₈ [] { k₈ with apicIdSource := .localApic } :=
        ⟨.refl k₈, rfl⟩
      have hdid := ((hstored.then_nothing hknown).then_nothing (did_log hphys)).then_nothing
        (did_log hdone)
      have hcell := hdid.localApic.trans hready
      refine .inr ⟨a, silencing, destination, spurious, rfl, hcell, hsilencing, ?_⟩
      rw [LocalApic.stores_append]
      exact hfilled.trans hdid.progress
  · obtain ⟨r, k₆, hwindow, hmap⟩ := bind_eq_ok.mp hmap
    obtain rfl := eq_of_windowMap hwindow
    obtain ⟨rfl, rfl⟩ := pure_eq_ok.mp h
    cases r with
    | ok w => exact nomatch hmap
    | error e =>
      obtain ⟨-, rfl⟩ := pure_eq_ok.mp hmap
      rw [hk₄]
      exact .inl ⟨_, silencing, rfl, hbefore.congr rfl rfl rfl, hsilencing.storesNothing, rfl⟩

/-! ## The I/O APIC -/

open IoApic

/-- Mapping the window of an I/O APIC changes nothing. -/
theorem eq_of_mapIoApic {paging : KernelPaging (Watched X)} {info : Acpi.IoApicInfo}
    {reply : Except IoApicError Window} (h : mapIoApic paging info k = .ok reply k') : k' = k := by
  obtain ⟨phys, k₁, hphys, h⟩ := bind_eq_ok.mp h
  obtain ⟨r, k₂, hmap, h⟩ := bind_eq_ok.mp h
  have hsame : k₁ = k := by
    unfold Address.physical at hphys
    split at hphys
    · exact (pure_eq_ok.mp hphys).2.symm
    · exact nomatch hphys
  rw [← hsame, ← eq_of_windowMap hmap]
  cases r with
  | error e => exact (pure_eq_ok.mp h).2.symm
  | ok w => exact (pure_eq_ok.mp h).2.symm

/-- **Bringing up the I/O APIC** does nothing, or sets one up. -/
theorem initIoApic_cases {platform : T} {paging : KernelPaging (Watched X)}
    {reply : Except IoApicError (IoApic Window)}
    (h : initIoApic platform paging k = .ok reply k') :
    k'.localApic = k.localApic
      ∧ ((∃ e, reply = .error e ∧ Progress k [] k')
        ∨ ∃ i, reply = .ok i ∧ k'.ioApic = .ready i ∧ i.pins = pinsOfVersion i.version
          ∧ Progress k ((setUpAccesses i.version).flatMap (accessStores i.window)) k') := by
  obtain ⟨_, k₁, hlog, h⟩ := bind_eq_ok.mp h
  obtain ⟨boot, k₂, hboot, h⟩ := bind_eq_ok.mp h
  obtain ⟨r, k₃, hfilled, hrest⟩ := bind_eq_ok.mp h
  have hbefore := (did_log hlog).trans (did_currentApicId hboot)
  have hclaimed : Progress k [] { k₂ with ioApic := .running } :=
    hbefore.progress.congr rfl rfl rfl
  -- The cell is claimed first, and only then is the window probed; what that does is the same
  -- whether the probe succeeds or not.
  have hprobed {reply k k'} (hprobe : probe platform boot.toUInt8 (mapIoApic paging) k
      = .ok reply k') := did_probe (X := X) (fun h => eq_of_mapIoApic h ▸ .refl _) hprobe
  rcases Slot.tryInit_cases isCell_ioApicSlot hfilled with
    ⟨-, rfl, -⟩ | ⟨i, k₄, hprobe, rfl, hk₃⟩ | ⟨e, k₄, hprobe, rfl, hk₃⟩
  · obtain ⟨_, _, -, hstop⟩ := bind_eq_ok.mp hrest
    exact nomatch hstop
  · obtain ⟨_, k₅, hdone, hreply⟩ := bind_eq_ok.mp hrest
    obtain ⟨rfl, rfl⟩ := pure_eq_ok.mp hreply
    rcases hprobed hprobe with ⟨_, hfailed, -⟩ | ⟨info, w, version, hset, hdid⟩
    · exact nomatch hfailed
    -- The controller that is kept is the one that was probed, so its window and version are those
    -- of the accesses.
    have hi := Except.ok.inj hset
    have hwindow : i.window = w := by rw [hi, probed_eq]; rfl
    have hversion : i.version = version := by rw [hi, probed_eq]; rfl
    have hpins : i.pins = pinsOfVersion version := by rw [hi, pins_probed]
    have hlogged := did_log hdone
    have hready : k₃.ioApic = .ready i := by rw [hk₃]
    have hcell : k₃.localApic = k.localApic := by
      rw [hk₃]
      exact hdid.localApic.trans hbefore.localApic
    have hreached : Progress k ((setUpAccesses version).flatMap (accessStores w)) k₃ := by
      rw [hk₃]
      exact (hclaimed.trans hdid.progress).congr rfl rfl rfl
    refine ⟨hlogged.localApic.trans hcell, .inr ⟨i, rfl, hlogged.ioApic.trans hready, ?_, ?_⟩⟩
    · rw [hpins, hversion]
    · rw [hversion, hwindow]
      exact hreached.then_nothing hlogged.progress
  · obtain ⟨_, k₅, hdone, hreply⟩ := bind_eq_ok.mp hrest
    obtain ⟨rfl, rfl⟩ := pure_eq_ok.mp hreply
    rcases hprobed hprobe with ⟨_, -, hdid⟩ | ⟨info, w, version, hset, hdid⟩
    · have hlogged := did_log hdone
      have hcell : k₃.localApic = k.localApic := by
        rw [hk₃]
        exact hdid.localApic.trans hbefore.localApic
      have hspent : Progress k [] k₃ := by
        rw [hk₃]
        exact (hclaimed.trans hdid.progress).congr rfl rfl rfl
      exact ⟨hlogged.localApic.trans hcell, .inl ⟨_, rfl, hspent.then_nothing hlogged.progress⟩⟩
    · exact nomatch hset

/-! ## Both -/

/-- **The ways in which an attempt at the APICs ends.** -/
inductive Tried (cfg : Config) (platform : T) (k : Kernel (Watched X)) :
    Option (ApicController Window Window) × T → Kernel (Watched X) → Prop where
  /-- No Local APIC came up, and nothing was stored. -/
  | absent {p' : T} {k' : Kernel (Watched X)} {deeds : List HardwareEvent}
      (cell : k'.localApic.get? = none) (stores : StoresNothing deeds)
      (progress : Progress k deeds k') : Tried cfg platform k (none, p') k'
  /-- A Local APIC came up without an I/O APIC. -/
  | unpaired {p' : T} {k' : Kernel (Watched X)} {deeds : List HardwareEvent}
      {a : LocalApic Window} (cell : k'.localApic = .ready a)
      (progress : Progress k (deeds ++ a.stores LocalApic.routing) k') :
      Tried cfg platform k (none, p') k'
  /-- Both came up. -/
  | paired {k' : Kernel (Watched X)} {silencing : List HardwareEvent} {a : LocalApic Window}
      {i : IoApic Window} {destination spurious : UInt32} (cell : k'.localApic = .ready a)
      (ioCell : k'.ioApic = .ready i) (pins : i.pins = pinsOfVersion i.version)
      (silenced : k.pic.IsSilencedBy (Acpi.PlatformTables.hasLegacyPics
        (Acpi.PlatformTables.changeModel platform .apic).platform) silencing)
      (progress : Progress k (silencing ++ a.stores (LocalApic.enabling destination spurious
        ++ [(LocalApic.endOfInterrupt, 0)])
        ++ (setUpAccesses i.version).flatMap (accessStores i.window)) k') :
      Tried cfg platform k (some { localApic := a, ioApic := i, irqBase := cfg.masterBase },
        (Acpi.PlatformTables.changeModel platform .apic).platform) k'

/-- **Pairing the Local APIC with an I/O APIC** works out, or the 8259 pair is let through. -/
theorem pairApics_cases {cfg : Config} {platform : T} {paging : KernelPaging (Watched X)}
    {a : LocalApic Window} {c : Option (ApicController Window Window)}
    (h : pairApics cfg platform paging a k = .ok c k') :
    k'.localApic = k.localApic
      ∧ ((c = none ∧ ∃ deeds, Progress k (deeds ++ a.stores LocalApic.routing) k')
        ∨ ∃ i, c = some { localApic := a, ioApic := i, irqBase := cfg.masterBase }
          ∧ k'.ioApic = .ready i ∧ i.pins = pinsOfVersion i.version
          ∧ Progress k ((setUpAccesses i.version).flatMap (accessStores i.window)) k') := by
  obtain ⟨reply, k₁, hinit, h⟩ := bind_eq_ok.mp h
  -- without an I/O APIC the Local APIC lets the pair through; with one, the cell of the controller
  -- decides whether the two are put in charge
  obtain ⟨hcell, ⟨e, rfl, hnothing⟩ | ⟨i, rfl, hready, hpins, hset⟩⟩ := initIoApic_cases hinit
  · obtain ⟨_, k₂, hlog, h⟩ := bind_eq_ok.mp h
    obtain ⟨_, k₃, hroute, h⟩ := bind_eq_ok.mp h
    obtain ⟨rfl, rfl⟩ := pure_eq_ok.mp h
    have hrouted := (did_log hlog).trans (did_routeLegacyPic hroute)
    exact ⟨hrouted.localApic.trans hcell, .inl ⟨rfl, [], hnothing.trans hrouted.progress⟩⟩
  · obtain ⟨r, k₂, hfilled, hchoice⟩ := bind_eq_ok.mp h
    rcases Slot.init_cases isCell_apicControllerSlot hfilled with
      ⟨rfl, rfl⟩ | ⟨c', k₃, hpure, rfl, hk₂⟩
    · obtain ⟨_, k₃, hroute, hreply⟩ := bind_eq_ok.mp hchoice
      obtain ⟨rfl, rfl⟩ := pure_eq_ok.mp hreply
      have hrouted := did_routeLegacyPic hroute
      exact ⟨hrouted.localApic.trans hcell, .inl ⟨rfl, _, hset.trans hrouted.progress⟩⟩
    · obtain ⟨rfl, rfl⟩ := pure_eq_ok.mp hchoice
      obtain ⟨rfl, rfl⟩ := pure_eq_ok.mp hpure
      rw [hk₂]
      exact ⟨hcell, .inr ⟨i, rfl, hready, hpins, hset.congr rfl rfl rfl⟩⟩

/-- **An attempt at the APICs** ends in one of the three ways. -/
theorem tryApics_tried {cfg : Config} {platform : T} {paging : KernelPaging (Watched X)}
    {reply : Option (ApicController Window Window) × T} (hfree : k.localApic = .unclaimed)
    (h : tryApics cfg platform paging k = .ok reply k') : Tried cfg platform k reply k' := by
  -- Three times the attempt is given up with a log line before anything is done.
  have hgivenUp {k₁ k₂ : Kernel (Watched X)} {p' : T} {level : Level} {text : String}
      {reply : Option (ApicController Window Window) × T}
      (hbefore : Did k [] k₁)
      (h : (do log level text; pure (none, p') : Boot (Watched X) _) k₁ = .ok reply k₂) :
      Tried cfg platform k reply k₂ := by
    obtain ⟨_, k₃, hlog, h⟩ := bind_eq_ok.mp h
    obtain ⟨rfl, rfl⟩ := pure_eq_ok.mp h
    have hdid := hbefore.trans (did_log hlog)
    refine .absent ?_ (fun _ _ => List.not_mem_nil) hdid.progress
    rw [hdid.localApic, hfree]
    rfl
  unfold tryApics at h
  split at h
  · exact hgivenUp (.refl k) h
  obtain ⟨_, _, ⟨⟩, h⟩ := bind_eq_ok.mp h
  split at h
  · exact hgivenUp (.refl k) h
  obtain ⟨⟨accepted, p'⟩, k₁, hmodel, h⟩ := bind_eq_ok.mp h
  obtain ⟨_, k₂, hlines, hmodel⟩ := bind_eq_ok.mp hmodel
  obtain ⟨heq, rfl⟩ := pure_eq_ok.mp hmodel
  cases heq
  have htold := did_logAll hlines
  dsimp only at h
  split at h
  · exact hgivenUp htold h
  obtain ⟨r, k₃, hlocal, h⟩ := bind_eq_ok.mp h
  rcases initLocalApic_cases (htold.localApic.trans hfree) hlocal with
    ⟨e, deeds, rfl, hprogress, hstores, hcell⟩
      | ⟨a, silencing, destination, spurious, rfl, hcell, hsilenced, hprogress⟩
  · obtain ⟨_, k₄, hlog, h⟩ := bind_eq_ok.mp h
    obtain ⟨rfl, rfl⟩ := pure_eq_ok.mp h
    have hdone := htold.progress.trans hprogress
    refine .absent ?_ hstores (hdone.then_nothing (did_log hlog).progress)
    rw [(did_log hlog).localApic, hcell]
  · obtain ⟨c, k₄, hpair, h⟩ := bind_eq_ok.mp h
    obtain ⟨rfl, rfl⟩ := pure_eq_ok.mp h
    have hup := htold.progress.trans hprogress
    obtain ⟨hkept, ⟨rfl, deeds, hrouted⟩ | ⟨i, rfl, hready, hpins, hset⟩⟩ := pairApics_cases hpair
    · have hdone := hup.trans hrouted
      rw [← List.append_assoc] at hdone
      exact .unpaired (hkept.trans hcell) hdone
    · rw [htold.pic] at hsilenced
      exact .paired (hkept.trans hcell) hready hpins hsilenced (hup.trans hset)

end Kernel

end Interrupts
