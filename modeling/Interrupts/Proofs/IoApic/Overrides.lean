import Interrupts.Proofs.Acpi.Search
import Interrupts.Proofs.IoApic.Probing

/-!
# From the bytes of the table to the entry of a pin

The interrupt topology table may redirect each interrupt of the legacy bus, several times over, and
between entries that mean something else. `Madt.Redirects` says which entries do, by their bytes,
and `Madt.overrideAt` what they say. Of several entries for one interrupt the last one counts
(`Madt.LastRedirect`), and entries for other buses, for interrupts the bus does not have, or of too
few bytes do not count.

The main statement goes from these bytes through the overrides of a probed controller to the 64 bits
that enabling an interrupt leaves at its pin.

A probe goes through the entries from the first to the last and remembers one override for each
interrupt of the bus, so a later one takes the place of an earlier one. The scan is a fold, and by
induction on the entries what it remembers is the first hit when they are searched from the end.
-/

namespace Interrupts

namespace Acpi.Madt

/-! ## Entries that redirect -/

/-- **The entry redirects an interrupt** of the legacy bus, which is bus 0. -/
def Redirects (t : Madt) (irq : UInt8) (r : RawEntry) : Prop :=
  r.entryType = MadtEntry.overrideType ∧ MadtEntry.overrideLength ≤ r.length
    ∧ t.bytes.field (r.offset + 2) 1 = 0 ∧ t.bytes.field (r.offset + 3) 1 = irq.toNat

instance (t : Madt) (irq : UInt8) (r : RawEntry) : Decidable (t.Redirects irq r) :=
  inferInstanceAs (Decidable (_ ∧ _))

/-- **What such an entry says**: where the interrupt arrives, and what it looks like there. Each of
the two lowest pairs of flag bits means something other than the default only when it is 11. -/
def overrideAt (t : Madt) (r : RawEntry) : Override where
  gsi := UInt32.ofNat (t.bytes.field (r.offset + 4) 4)
  polarity := if t.bytes.field (r.offset + 8) 2 % 4 = 3 then .activeLow else .activeHigh
  trigger := if t.bytes.field (r.offset + 8) 2 / 4 % 4 = 3 then .level else .edge

/-- **The last entry that redirects an interrupt.** -/
def LastRedirect (t : Madt) (irq : UInt8) (r : RawEntry) : Prop :=
  ∃ before after, t.raws = before ++ r :: after ∧ t.Redirects irq r
    ∧ ∀ r' ∈ after, ¬t.Redirects irq r'

/-- The override that an entry makes for an interrupt, if it makes one. -/
def redirect? (t : Madt) (irq : UInt8) (r : RawEntry) : Option Override :=
  if irq.toNat < IoApic.legacyCount ∧ t.Redirects irq r then some (t.overrideAt r) else none

/-- The search for entries that may redirect. -/
def overrideQuery : Query where
  entryType := MadtEntry.overrideType
  minLength := MadtEntry.overrideLength

variable {t : Madt} {r : RawEntry} {irq : UInt8} {o : Override}

theorem wants_overrideQuery :
    overrideQuery.wants r = true
      ↔ r.entryType = MadtEntry.overrideType ∧ MadtEntry.overrideLength ≤ r.length :=
  decide_eq_true_iff

/-- The fields of an override, where its entry lies. -/
def overrideInfo (t : Madt) (r : RawEntry) : InterruptOverride where
  bus := UInt8.ofNat (t.bytes.field (r.offset + 2) 1)
  irq := UInt8.ofNat (t.bytes.field (r.offset + 3) 1)
  gsi := UInt32.ofNat (t.bytes.field (r.offset + 4) 4)
  flags := UInt16.ofNat (t.bytes.field (r.offset + 8) 2)

/-- An entry of the type that is long enough is read as an override. -/
theorem parseEntry_of_wants (h : overrideQuery.wants r = true) :
    t.parseEntry r = .interruptOverride (t.overrideInfo r) := by
  obtain ⟨htype, hlength⟩ := wants_overrideQuery.mp h
  have hlocal : ¬(r.entryType = MadtEntry.localApicType
      ∧ MadtEntry.localApicLength ≤ r.length) := by
    rw [htype]
    exact fun h => absurd h.1 (by decide)
  have hioApic : ¬(r.entryType = MadtEntry.ioApicType ∧ MadtEntry.ioApicLength ≤ r.length) := by
    rw [htype]
    exact fun h => absurd h.1 (by decide)
  unfold parseEntry
  dsimp only
  rw [if_neg hlocal, if_neg hioApic, if_pos ⟨htype, hlength⟩]
  simp only [Bytes.field_drop, overrideInfo]

/-- The two lowest flag bits. -/
theorem polarity_ofFirmware (o : InterruptOverride) :
    (Override.ofFirmware o).polarity
      = if o.flags.toNat % 4 = 3 then .activeLow else .activeHigh := by
  have hlow : (o.flags &&& 3).toNat = o.flags.toNat % 4 := by
    rw [UInt16.toNat_and]
    exact Nat.and_two_pow_sub_one_eq_mod o.flags.toNat 2
  unfold Override.ofFirmware InterruptOverride.polarity
  simp only [← UInt16.toNat_inj, hlow, show (1 : UInt16).toNat = 1 from rfl,
    show (3 : UInt16).toNat = 3 from rfl]
  by_cases hhigh : o.flags.toNat % 4 = 1
  · rw [hhigh]
    rfl
  · rw [if_neg hhigh]
    by_cases hactiveLow : o.flags.toNat % 4 = 3
    · rw [hactiveLow]
      rfl
    · rw [if_neg hactiveLow, if_neg hactiveLow]

/-- The next two flag bits. -/
theorem trigger_ofFirmware (o : InterruptOverride) :
    (Override.ofFirmware o).trigger = if o.flags.toNat / 4 % 4 = 3 then .level else .edge := by
  have hnext : ((o.flags >>> 2) &&& 3).toNat = o.flags.toNat / 4 % 4 := by
    rw [UInt16.toNat_and, UInt16.toNat_shiftRight, show (2 : UInt16).toNat % 16 = 2 from rfl,
      Nat.shiftRight_eq_div_pow]
    exact Nat.and_two_pow_sub_one_eq_mod (o.flags.toNat / 4) 2
  unfold Override.ofFirmware InterruptOverride.triggerMode
  simp only [← UInt16.toNat_inj, hnext, show (1 : UInt16).toNat = 1 from rfl,
    show (3 : UInt16).toNat = 3 from rfl]
  by_cases hedge : o.flags.toNat / 4 % 4 = 1
  · rw [hedge]
    rfl
  · rw [if_neg hedge]
    by_cases hlevel : o.flags.toNat / 4 % 4 = 3
    · rw [hlevel]
      rfl
    · rw [if_neg hlevel, if_neg hlevel]

/-- **An override that is read says what the bytes of its entry say.** -/
theorem ofFirmware_overrideInfo (t : Madt) (r : RawEntry) :
    Override.ofFirmware (t.overrideInfo r) = t.overrideAt r := by
  have hflags : (t.overrideInfo r).flags.toNat = t.bytes.field (r.offset + 8) 2 :=
    UInt16.toNat_ofNat_of_lt' (t.bytes.field_lt _ _)
  have hpolarity := polarity_ofFirmware (t.overrideInfo r)
  have htrigger := trigger_ofFirmware (t.overrideInfo r)
  rw [hflags] at hpolarity htrigger
  rw [overrideAt, ← hpolarity, ← htrigger]
  rfl

/-- An entry redirects an interrupt when its fields say so. -/
theorem redirects_iff :
    t.Redirects irq r ↔ overrideQuery.wants r = true
      ∧ (t.overrideInfo r).bus = 0 ∧ (t.overrideInfo r).irq = irq := by
  have hbyte (offset : Nat) (b : UInt8) :
      UInt8.ofNat (t.bytes.field offset 1) = b ↔ t.bytes.field offset 1 = b.toNat := by
    rw [← UInt8.toNat_inj, UInt8.toNat_ofNat_of_lt' (t.bytes.field_lt offset 1)]
  rw [wants_overrideQuery, overrideInfo]
  dsimp only
  rw [hbyte, hbyte]
  exact and_assoc.symm

/-- **The last entry that redirects** is the first one from the end. -/
theorem findSome?_redirect?_eq_some (h : t.raws.reverse.findSome? (t.redirect? irq) = some o) :
    ∃ r, t.LastRedirect irq r ∧ o = t.overrideAt r := by
  obtain ⟨after, r, before, hsplit, hr, hafter⟩ := List.findSome?_eq_some_iff.mp h
  obtain ⟨⟨hlegacy, hredirects⟩, ho⟩ := Option.ite_none_right_eq_some.mp hr
  refine ⟨r, ⟨before.reverse, after.reverse, ?_, hredirects, fun r' hr' hredirects' => ?_⟩,
    (Option.some.inj ho).symm⟩
  · rw [← List.reverse_reverse t.raws, hsplit, List.reverse_append, List.reverse_cons,
      List.append_assoc, List.singleton_append]
  · have hnone := hafter r' (List.mem_reverse.mp hr')
    rw [redirect?, if_pos ⟨hlegacy, hredirects'⟩] at hnone
    exact nomatch hnone

/-- There is one just when some entry redirects. -/
theorem isSome_findSome?_redirect? :
    (t.raws.reverse.findSome? (t.redirect? irq)).isSome = true
      ↔ irq.toNat < IoApic.legacyCount ∧ ∃ r ∈ t.raws, t.Redirects irq r := by
  rw [List.isSome_findSome?, List.any_eq_true]
  constructor
  · rintro ⟨r, hr, hsome⟩
    obtain ⟨o, ho⟩ := Option.isSome_iff_exists.mp hsome
    obtain ⟨⟨hlegacy, hredirects⟩, -⟩ := Option.ite_none_right_eq_some.mp ho
    exact ⟨hlegacy, r, List.mem_reverse.mp hr, hredirects⟩
  · rintro ⟨hlegacy, r, hr, hredirects⟩
    refine ⟨r, List.mem_reverse.mpr hr, ?_⟩
    rw [redirect?, if_pos ⟨hlegacy, hredirects⟩]
    rfl

end Acpi.Madt

namespace IoApic

open Acpi Acpi.Madt

variable {R : Type} {a : IoApic R} {t : Madt} {r : RawEntry} {irq : UInt8}

/-! ## Noting overrides -/

/-- **Noting an override** replaces that of its own interrupt only. -/
theorem override?_note (a : IoApic R) (o : InterruptOverride) (irq : UInt8) :
    (a.note (.interruptOverride o)).override? irq
      = if irq.toNat < legacyCount ∧ o.bus = 0 ∧ o.irq = irq then some (.ofFirmware o)
        else a.override? irq := by
  have hset (x : Option Override) (i j : Nat) (hi : i < legacyCount) :
      ((a.overrides.setIfInBounds i x)[j]?).getD none
        = if i = j then x else (a.overrides[j]?).getD none := by
    rw [Vector.getElem?_setIfInBounds, if_pos (show i < 16 from hi)]
    split <;> rfl
  unfold note noteOverride
  dsimp only
  -- An override for another bus, or for an interrupt that is none of the legacy ones, has no place
  -- in the table.
  by_cases hnoted : o.bus = 0 ∧ o.irq.toNat < legacyCount
  · rw [if_pos hnoted, Option.map_some, Option.getD_some, override?]
    dsimp only
    rw [hset _ _ _ hnoted.2]
    by_cases hirq : o.irq = irq
    · subst hirq
      rw [if_pos rfl, if_pos ⟨hnoted.2, hnoted.1, rfl⟩]
    · rw [if_neg fun h => hirq (UInt8.toNat_inj.mp h), if_neg fun h => hirq h.2.2, override?]
  · have hother : ¬(irq.toNat < legacyCount ∧ o.bus = 0 ∧ o.irq = irq) := by
      rintro ⟨hlegacy, hbus, rfl⟩
      exact hnoted ⟨hbus, hlegacy⟩
    rw [if_neg hnoted, Option.map_none, Option.getD_none, if_neg hother]

/-- **A step of the scan**, over all entries of the table. -/
theorem override?_step (a : IoApic R) (t : Madt) (r : RawEntry) (irq : UInt8) :
    (if overrideQuery.wants r then a.note (t.parseEntry r) else a).override? irq
      = (t.redirect? irq r).or (a.override? irq) := by
  unfold redirect?
  cases hwants : overrideQuery.wants r with
  | false =>
    have hnot : ¬t.Redirects irq r := by
      rw [redirects_iff, hwants]
      exact fun h => Bool.false_ne_true h.1
    rw [if_neg Bool.false_ne_true, if_neg fun h => hnot h.2, Option.none_or]
  | true =>
    have hredirects : t.Redirects irq r
        ↔ (t.overrideInfo r).bus = 0 ∧ (t.overrideInfo r).irq = irq := by
      rw [redirects_iff]
      exact and_iff_right hwants
    rw [if_pos rfl, parseEntry_of_wants hwants, override?_note, ofFirmware_overrideInfo]
    simp only [← hredirects]
    split
    next => rfl
    next => exact (Option.none_or).symm

/-- **The whole scan**: of several overrides, the last one counts. -/
theorem override?_foldl (t : Madt) (rs : List RawEntry) (a : IoApic R) (irq : UInt8) :
    (rs.foldl (fun a r => if overrideQuery.wants r then a.note (t.parseEntry r) else a)
        a).override? irq
      = (rs.reverse.findSome? (t.redirect? irq)).or (a.override? irq) := by
  induction rs generalizing a with
  | nil => rfl
  | cons r rs ih =>
    rw [List.foldl_cons, ih, override?_step, List.reverse_cons, List.findSome?_append,
      List.findSome?_singleton, Option.or_assoc]

/-- **The overrides of a probed controller** are read off the table. -/
theorem override?_probed (t : Madt) (model : InterruptModel) (info : IoApicInfo)
    (destination : UInt8) (window : R) (version : UInt32) (irq : UInt8) :
    (probed (MadtPlatform.mk (some t) model) info destination window version).override? irq
      = t.raws.reverse.findSome? (t.redirect? irq) := by
  have hnone : (described info destination window version).override? irq = none := by
    rw [override?, described, Vector.getElem?_replicate]
    split <;> rfl
  have hentries : PlatformTables.entriesOf (MadtPlatform.mk (some t) model) MadtEntry.overrideType
      MadtEntry.overrideLength = (t.raws.filter overrideQuery.wants).map t.parseEntry :=
    t.entriesOf_eq model overrideQuery
  rw [probed, hentries, List.foldl_map, List.foldl_filter, override?_foldl, hnone, Option.or_none]

/-! ## The entry at the pin -/

/-- A pin is counted from the base. -/
theorem pin_eq_sub {gsi pin : UInt32} (h : a.pinOf gsi = .ok pin) : pin = gsi - a.gsiBase := by
  unfold pinOf at h
  split at h
  next => exact (Except.ok.inj h).symm
  next => exact nomatch h

/-- **The bits of a route**, by what the override says. -/
theorem raw_route (a : IoApic R) (irq vector : UInt8) :
    (Redirection.route vector a.destination (a.polarityOf irq) (a.triggerOf irq)).raw
      = vector.toUInt64 ||| a.destination.toUInt64 <<< 56
        ||| (if (a.override? irq).map Override.polarity = some .activeLow then 0x2000 else 0)
        ||| (if (a.override? irq).map Override.trigger = some .level then 0x8000 else 0) := by
  unfold Redirection.route polarityOf triggerOf
  cases a.override? irq with
  | none => rfl
  | some o =>
    simp only [Option.map_some, Option.getD_some, Option.some.injEq]
    rfl

section Route

variable {σ : Type} [RegisterBus R (EStateM Stop σ)] [Logger (EStateM Stop σ)] {w : Wiring R σ}
  {s s' : σ} {model : InterruptModel} {destination : UInt8}
  {map : Acpi.IoApicInfo → EStateM Stop σ (Except IoApicError R)}

/-- **Enabling an interrupt that is served** leaves its route at its pin; one that is not served
cannot be enabled. -/
theorem enable_leaves_route (ha : a.IsWired w) (h : w.ready s) (irq vector : UInt8) :
    ∃ reply s₂, a.enable (m := EStateM Stop σ) irq vector s = .ok reply s₂
      ∧ (reply = .ok () ↔ a.gsiBase.toNat ≤ (a.gsiOf irq).toNat
        ∧ (a.gsiOf irq).toNat < a.gsiBase.toNat + a.pins.toNat)
      ∧ (reply = .ok () → (w.registers s₂).entry (a.gsiOf irq - a.gsiBase)
        = .route vector a.destination (a.polarityOf irq) (a.triggerOf irq)) := by
  cases hpin : a.pinOf (a.gsiOf irq) with
  | error e =>
    refine ⟨.error e, s, ?_, ⟨nofun, fun hserved => ?_⟩, nofun⟩
    · rw [enable_of_refused hpin]
      rfl
    · exact absurd hserved (pinOf_eq_error.mp hpin).2
  | ok pin =>
    obtain ⟨s₂, henable⟩ := runs_enable ha h hpin vector
    obtain ⟨hlow, hlt, hoffset⟩ := pinOf_eq_ok.mp hpin
    have hserved : (a.gsiOf irq).toNat < a.gsiBase.toNat + a.pins.toNat := by omega
    refine ⟨.ok (), s₂, henable.run, ⟨fun _ => ⟨hlow, hserved⟩, fun _ => rfl⟩, fun _ => ?_⟩
    rw [← pin_eq_sub hpin, henable.registers,
      RegisterFile.entry_after_pinWrites _ _ (Nat.lt_of_lt_of_le hlt ha.pins), entryFor_eq_route]

/-- **From the bytes of the table to the entry of a pin.** After a probe that succeeds, an interrupt
has an override just when it is one of the legacy bus and some entry of the table redirects it, and
the override is what the last such entry says. The interrupt arrives where the override sends it, or
else at its own number. Enabling it works just when that number is one that the controller serves,
and leaves at the pin of that number the vector, the destination and two flags: bit 13 when the pin
is active low, bit 15 when it is level triggered, and nothing else. -/
theorem probe_routes (hmap : Maps w map) (h : w.ready s)
    (hprobe : probe ({ madt := some t, model } : MadtPlatform) destination map s = .ok (.ok a) s')
    (irq : UInt8) :
    ((a.override? irq).isSome = true ↔ irq.toNat < 16 ∧ ∃ r ∈ t.raws, t.Redirects irq r)
      ∧ (∀ o ∈ a.override? irq, ∃ r, t.LastRedirect irq r ∧ o = t.overrideAt r)
      ∧ a.gsiOf irq = ((a.override? irq).map Override.gsi).getD irq.toUInt32
      ∧ ∀ vector s₁, w.ready s₁ → ∃ reply s₂,
        a.enable (m := EStateM Stop σ) irq vector s₁ = .ok reply s₂
          ∧ (reply = .ok () ↔ a.gsiBase.toNat ≤ (a.gsiOf irq).toNat
            ∧ (a.gsiOf irq).toNat < a.gsiBase.toNat + a.pins.toNat)
          ∧ (reply = .ok () →
            let e := (w.registers s₂).entry (a.gsiOf irq - a.gsiBase)
            e.raw = vector.toUInt64 ||| destination.toUInt64 <<< 56
              ||| (if (a.override? irq).map Override.polarity = some .activeLow then 0x2000 else 0)
              ||| (if (a.override? irq).map Override.trigger = some .level then 0x8000 else 0)
              ∧ e.isMasked = false ∧ e.deliveryMode = .fixed ∧ e.isLogical = false) := by
  obtain ⟨⟨info, ha⟩, hruns⟩ := probe_eq_ok hmap h hprobe
  have hwired : a.IsWired w := ha ▸ isWired_probed _ info destination _
  have hdestination : a.destination = destination := ha ▸ destination_probed _ _ _ _ _
  have hoverride : a.override? irq = t.raws.reverse.findSome? (t.redirect? irq) := by
    rw [ha, override?_probed]
  refine ⟨?_, fun o ho => ?_, ?_, fun vector s₁ hready => ?_⟩
  · rw [hoverride]
    exact isSome_findSome?_redirect?
  · exact findSome?_redirect?_eq_some (hoverride.symm.trans ho)
  · unfold gsiOf
    cases a.override? irq <;> rfl
  · obtain ⟨reply, s₂, hrun, hreply, hroute⟩ := enable_leaves_route hwired hready irq vector
    refine ⟨reply, s₂, hrun, hreply, fun hok => ?_⟩
    dsimp only
    rw [hroute hok, raw_route, hdestination]
    exact ⟨rfl, Redirection.isMasked_route _ _ _ _, Redirection.deliveryMode_route _ _ _ _,
      Redirection.isLogical_route _ _ _ _⟩

end Route

end IoApic

namespace Sim.ProbeRig

open IoApic

/-- The later of two overrides of interrupt 0 decides; its first pair of flag bits is 01, which says
nothing new, and its second is 11. -/
theorem probe_routes_rerouted :
    (Maps wiring map ∧ wiring.ready inUse)
      ∧ ∃ a s', IoApic.probe (m := BenchM ProbeRig) rerouted 5 map inUse = .ok (.ok a) s'
        ∧ wiring.ready s'
        ∧ a.override? 0 = some { gsi := 18, polarity := .activeHigh, trigger := .level }
        ∧ ∃ s₂, a.enable (m := BenchM ProbeRig) 0 0x40 s' = .ok (.ok ()) s₂
          ∧ ((wiring.registers s₂).entry 2).raw = 0x0500000000008040 := by
  have hready : wiring.ready inUse := rfl
  have hview : probeView (fun a => (a.pins, a.gsiBase, a.override? 0))
      = some (4, 16, some { gsi := 18, polarity := .activeHigh, trigger := .level }) := by
    decide +kernel
  obtain ⟨a, s', hprobe, hsees⟩ := exists_probe hview
  obtain ⟨hpins, hbase, hoverride⟩ : a.pins = 4 ∧ a.gsiBase = 16
      ∧ a.override? 0 = some { gsi := 18, polarity := .activeHigh, trigger := .level } := by
    simpa only [Prod.mk.injEq] using hsees
  have hready' : wiring.ready s' := (probe_eq_ok maps_map hready hprobe).2.ready
  obtain ⟨-, -, hgsi, henable⟩ := probe_routes maps_map hready hprobe 0
  obtain ⟨reply, s₂, hrun, hreply, hentry⟩ := henable 0x40 s' hready'
  rw [hoverride] at hgsi hentry
  rw [hgsi, hbase] at hentry
  have hok : reply = .ok () := hreply.mpr (by rw [hgsi, hbase, hpins]; decide)
  subst hok
  exact ⟨⟨maps_map, hready⟩, a, s', hprobe, hready', hoverride, s₂, hrun, (hentry rfl).1⟩

end Sim.ProbeRig

end Interrupts
