import Mathlib.Data.List.Induction
import Mathlib.Data.List.Nodup
import Interrupts.Proofs.IoApic.Overrides
import Interrupts.Proofs.LocalApic.LineCalls

/-!
# Lines that meet at one pin

Each line arrives at the number that its override names, or else at its own. Even when no two
overrides name one number, two lines may meet: an override may name the number of a line that has no
override itself, and stays where it is (`Madt.Takes`). This is how the timer of many machines takes
pin 2 from the line of the same number.

No other two lines meet. So a call for a line leaves the pins of all lines alone that neither take
its number nor lose theirs to it, and after any number of calls the pin of a line is as the last
call for the line itself left it.
-/

namespace Interrupts

/-! ## Where lines arrive -/

namespace Acpi.Madt

/-- The entry redirects an interrupt that the legacy bus has. -/
def RedirectsLegacy (t : Madt) (r : RawEntry) : Prop :=
  r.entryType = MadtEntry.overrideType ∧ MadtEntry.overrideLength ≤ r.length
    ∧ t.bytes.field (r.offset + 2) 1 = 0 ∧ t.bytes.field (r.offset + 3) 1 < IoApic.legacyCount

instance (t : Madt) (r : RawEntry) : Decidable (t.RedirectsLegacy r) :=
  inferInstanceAs (Decidable (_ ∧ _))

/-- **The overrides of legacy interrupts name pairwise distinct numbers.** -/
def DistinctTargets (t : Madt) : Prop :=
  ((t.raws.filter fun r => decide (t.RedirectsLegacy r)).map fun r => (t.overrideAt r).gsi).Nodup

instance (t : Madt) : Decidable t.DistinctTargets :=
  inferInstanceAs (Decidable (List.Nodup _))

/-- The table has an override for the interrupt. -/
def Overrides (t : Madt) (irq : UInt8) : Prop :=
  irq.toNat < IoApic.legacyCount ∧ ∃ r ∈ t.raws, t.Redirects irq r

/-- **One interrupt is sent to the number of another**, which has no override. -/
def Takes (t : Madt) (i j : UInt8) : Prop :=
  i.toNat < IoApic.legacyCount ∧ (∃ r, t.LastRedirect i r ∧ (t.overrideAt r).gsi = j.toUInt32)
    ∧ ¬t.Overrides j

variable {t : Madt} {r r' : RawEntry} {i j : UInt8} {o : Override}

/-- The deciding override is one of the entries of the table. -/
theorem LastRedirect.mem (h : t.LastRedirect i r) : r ∈ t.raws := by
  obtain ⟨before, after, hsplit, -, -⟩ := h
  rw [hsplit]
  exact List.mem_append_right _ List.mem_cons_self

theorem LastRedirect.redirects (h : t.LastRedirect i r) : t.Redirects i r := by
  obtain ⟨_, _, _, hredirects, _⟩ := h
  exact hredirects

/-- **The override in effect** is what the last entry for the interrupt says. -/
theorem findSome?_redirect?_of_last (hi : i.toNat < IoApic.legacyCount) (h : t.LastRedirect i r) :
    t.raws.reverse.findSome? (t.redirect? i) = some (t.overrideAt r) := by
  obtain ⟨before, after, hsplit, hredirects, hafter⟩ := h
  refine List.findSome?_eq_some_iff.mpr ⟨after.reverse, r, before.reverse, ?_, ?_, ?_⟩
  · rw [hsplit, List.reverse_append, List.reverse_cons, List.append_assoc, List.singleton_append]
  · rw [redirect?, if_pos ⟨hi, hredirects⟩]
  · intro r' hr'
    rw [redirect?, if_neg fun h => hafter r' (List.mem_reverse.mp hr') h.2]

/-- An interrupt with an override has a last entry. -/
theorem Overrides.exists_last (h : t.Overrides i) : ∃ r, t.LastRedirect i r := by
  obtain ⟨o, ho⟩ := Option.isSome_iff_exists.mp (isSome_findSome?_redirect?.mpr h)
  obtain ⟨r, hr, -⟩ := findSome?_redirect?_eq_some ho
  exact ⟨r, hr⟩

/-- **Distinct interrupts are sent to distinct numbers** when the overrides name distinct ones. -/
theorem DistinctTargets.ne (h : t.DistinctTargets) (hij : i ≠ j) (hi : i.toNat < IoApic.legacyCount)
    (hj : j.toNat < IoApic.legacyCount) (hr : t.LastRedirect i r) (hr' : t.LastRedirect j r') :
    (t.overrideAt r).gsi ≠ (t.overrideAt r').gsi := by
  have hlisted {irq : UInt8} {r : RawEntry} (hirq : irq.toNat < IoApic.legacyCount)
      (hr : t.LastRedirect irq r) :
      r ∈ t.raws.filter fun r => decide (t.RedirectsLegacy r) := by
    obtain ⟨htype, hlength, hbus, hnumber⟩ := hr.redirects
    exact List.mem_filter.mpr
      ⟨hr.mem, decide_eq_true ⟨htype, hlength, hbus, hnumber ▸ hirq⟩⟩
  intro heq
  -- equal targets would make the two deciding entries one entry, and so the two lines one line
  obtain rfl := List.inj_on_of_nodup_map h (hlisted hi hr) (hlisted hj hr') heq
  exact hij (UInt8.toNat_inj.mp (hr.redirects.2.2.2.symm.trans hr'.redirects.2.2.2))

end Acpi.Madt

namespace IoApic

open Acpi Acpi.Madt

variable {R : Type} {a : IoApic R} {t : Madt} {r : RawEntry} {i j : UInt8} {gsi gsi' pin : UInt32}

/-- The overrides of the controller are those of the table. -/
def Heeds (a : IoApic R) (t : Madt) : Prop :=
  ∀ irq, a.override? irq = t.raws.reverse.findSome? (t.redirect? irq)

/-- A legacy line is wired to the global interrupt that its last override names. -/
theorem Heeds.gsiOf_of_last (ha : a.Heeds t) (hi : i.toNat < legacyCount)
    (hr : t.LastRedirect i r) : a.gsiOf i = (t.overrideAt r).gsi := by
  unfold gsiOf
  rw [ha i, findSome?_redirect?_of_last hi hr]

/-- A line that no override moves keeps its own number as its global interrupt. -/
theorem Heeds.gsiOf_of_not_overrides (ha : a.Heeds t) (hi : ¬t.Overrides i) :
    a.gsiOf i = i.toUInt32 := by
  have hnone : t.raws.reverse.findSome? (t.redirect? i) = none :=
    Option.not_isSome_iff_eq_none.mp fun h => hi (isSome_findSome?_redirect?.mp h)
  unfold gsiOf
  rw [ha i, hnone]

/-- **Two interrupts arrive at one number** when one takes the number of the other, and only
then. -/
theorem Heeds.gsiOf_eq_iff (ha : a.Heeds t) (hdistinct : t.DistinctTargets) (hij : i ≠ j) :
    a.gsiOf i = a.gsiOf j ↔ t.Takes i j ∨ t.Takes j i := by
  -- Who has an override arrives where its last entry says; so `Takes` is about that entry.
  have htakes {i j : UInt8} {r : RawEntry} (hi : i.toNat < legacyCount) (hr : t.LastRedirect i r)
      (hj : ¬t.Overrides j) : t.Takes i j ↔ (t.overrideAt r).gsi = j.toUInt32 := by
    refine ⟨fun ⟨_, ⟨r', hr', hgsi⟩, _⟩ => ?_, fun hgsi => ⟨hi, ⟨r, hr, hgsi⟩, hj⟩⟩
    rw [← ha.gsiOf_of_last hi hr, ha.gsiOf_of_last hi hr', hgsi]
  have hoverrides {i j : UInt8} (h : t.Takes i j) : t.Overrides i ∧ ¬t.Overrides j := by
    obtain ⟨hi, ⟨r, hr, -⟩, hj⟩ := h
    exact ⟨⟨hi, r, hr.mem, hr.redirects⟩, hj⟩
  by_cases hi : t.Overrides i <;> by_cases hj : t.Overrides j
  · obtain ⟨r, hr⟩ := hi.exists_last
    obtain ⟨r', hr'⟩ := hj.exists_last
    rw [ha.gsiOf_of_last hi.1 hr, ha.gsiOf_of_last hj.1 hr']
    refine iff_of_false (hdistinct.ne hij hi.1 hj.1 hr hr') ?_
    rintro (h | h)
    · exact (hoverrides h).2 hj
    · exact (hoverrides h).2 hi
  · obtain ⟨r, hr⟩ := hi.exists_last
    rw [ha.gsiOf_of_last hi.1 hr, ha.gsiOf_of_not_overrides hj, htakes hi.1 hr hj,
      or_iff_left fun h => hj (hoverrides h).1]
  · obtain ⟨r, hr⟩ := hj.exists_last
    rw [ha.gsiOf_of_last hj.1 hr, ha.gsiOf_of_not_overrides hi, htakes hj.1 hr hi,
      or_iff_right fun h => hi (hoverrides h).1, eq_comm]
  · rw [ha.gsiOf_of_not_overrides hi, ha.gsiOf_of_not_overrides hj]
    refine iff_of_false (fun h => hij ?_) ?_
    · rw [← UInt8.toUInt8_toUInt32 i, h, UInt8.toUInt8_toUInt32]
    · rintro (h | h)
      · exact hi (hoverrides h).1
      · exact hj (hoverrides h).1

/-- A pin serves one number. -/
theorem pinOf_injective (h : a.pinOf gsi = .ok pin) (h' : a.pinOf gsi' = .ok pin) : gsi = gsi' := by
  obtain ⟨hle, -, heq⟩ := pinOf_eq_ok.mp h
  obtain ⟨hle', -, heq'⟩ := pinOf_eq_ok.mp h'
  exact UInt32.toNat_inj.mp (by omega)

end IoApic

variable {L I σ : Type} [RegisterBus I (EStateM Stop σ)] [Logger (EStateM Stop σ)]

/-! ## Many calls -/

namespace ApicController

/-- Make calls one after the other. -/
def calls {m : Type → Type} [Monad m] [MonadExceptOf Stop m] [Logger m] [RegisterBus I m]
    (c : ApicController L I) (ks : List LineCall) : m Unit :=
  forM ks c.call

variable {c : ApicController L I} {w : Wiring I σ} {s s' : σ} {k : LineCall} {ks : List LineCall}
  {l : UInt8} {pin : UInt32}

/-- A list of calls that grows at the end is the list before it, and then the new call. -/
theorem calls_concat (c : ApicController L I) (ks : List LineCall) (k : LineCall) :
    c.calls (m := EStateM Stop σ) (ks ++ [k]) = (do c.calls ks; c.call k) := by
  unfold calls
  rw [List.forM_append, List.forM_cons, List.forM_nil]
  exact congrArg (forM ks c.call >>= ·) (funext fun _ => bind_pure (c.call k))

/-- **A call leaves the pins of lines alone** that arrive elsewhere. -/
theorem Settles.leaves (h : c.Settles w k s s')
    (hne : c.ioApic.gsiOf k.line ≠ c.ioApic.gsiOf l)
    (hpin : c.ioApic.pinOf (c.ioApic.gsiOf l) = .ok pin) :
    (w.registers s').entry pin = (w.registers s).entry pin := by
  cases h with
  | rewritten pin' hpin' entry others =>
    refine others pin (IoApic.pinOf_eq_ok.mp hpin).2.1 ?_
    rintro rfl
    exact hne (IoApic.pinOf_injective hpin' hpin)
  | warned e hpin' line registers => rw [registers]

/-- The last call for a line. -/
def lastCall? (ks : List LineCall) (l : UInt8) : Option LineCall :=
  (ks.filter fun k => k.line = l).getLast?

/-- A new call for a line is the last one for that line. -/
theorem lastCall?_append_self (ks : List LineCall) (k : LineCall) :
    lastCall? (ks ++ [k]) k.line = some k := by
  unfold lastCall?
  rw [getLast?_filter_concat, if_pos (decide_eq_true rfl)]

/-- A call for another line leaves the last call for this one as it was. -/
theorem lastCall?_append_of_ne (ks : List LineCall) (hk : k.line ≠ l) :
    lastCall? (ks ++ [k]) l = lastCall? ks l := by
  unfold lastCall?
  rw [getLast?_filter_concat, if_neg (by rw [decide_eq_true_eq]; exact hk)]

/-- A masked entry is not as an unmasking wants it. -/
theorem not_shows_unmask {e : Redirection} (h : e.isMasked = true) : ¬c.Shows e (.unmask l) :=
  fun hshows => Bool.false_ne_true (hshows.1.symm.trans h)

/-- **A pin is as the last call for its line left it**, after any number of calls, when no other
line that is called arrives there. -/
theorem calls_settle (hc : c.ioApic.IsWired w) (h : w.ready s) (ks : List LineCall) :
    ∃ s', c.calls (m := EStateM Stop σ) ks s = .ok () s' ∧ w.ready s' ∧
      ∀ l pin, c.ioApic.pinOf (c.ioApic.gsiOf l) = .ok pin →
        ((w.registers s).entry pin).isMasked = true →
        (∀ k ∈ ks, k.line ≠ l → c.ioApic.gsiOf k.line ≠ c.ioApic.gsiOf l) →
        (c.Shows ((w.registers s').entry pin) (.unmask l)
          ↔ lastCall? ks l = some (.unmask l)) := by
  -- The induction adds calls at the end, so that the state before the last call is known.
  induction ks using List.reverseRecOn with
  | nil => exact ⟨s, rfl, h, fun l pin _ hmasked _ => iff_of_false (not_shows_unmask hmasked) nofun⟩
  | append_singleton ks k ih =>
    obtain ⟨s₁, hcalls, hready₁, hbefore⟩ := ih
    obtain ⟨s₂, hcall, hready₂, hsettles⟩ := c.call_settles hc hready₁ k
    refine ⟨s₂, ?_, hready₂, fun l pin hpin hmasked hkept => ?_⟩
    · rw [calls_concat]
      exact (bind_of_ok hcalls).trans hcall
    · by_cases hk : k.line = l
      · subst hk
        rw [lastCall?_append_self, Option.some.injEq]
        cases hsettles with
        | warned e he => exact nomatch he.symm.trans hpin
        | rewritten pin' hpin' entry others =>
          cases hpin'.symm.trans hpin
          rw [entry]
          have hshows := shows_rewrite c ((w.registers s₁).entry pin) k
          cases k with
          | mask l => exact iff_of_false (not_shows_unmask hshows) nofun
          | unmask l => exact iff_of_true hshows rfl
      · have hkept' := hkept k (List.mem_append_right _ List.mem_cons_self) hk
        rw [lastCall?_append_of_ne ks hk, hsettles.leaves hkept' hpin]
        exact hbefore l pin hpin hmasked fun k' hk' =>
          hkept k' (List.mem_append_left _ hk')

end ApicController

/-! ## Independent lines -/

section Probed

open IoApic Acpi

variable {w : Wiring I σ} {s s' : σ} {t : Madt} {model : InterruptModel} {destination : UInt8}
  {map : IoApicInfo → EStateM Stop σ (Except IoApicError I)} {a : IoApic I}

/-- **Lines are independent unless one takes the number of another.** Let the overrides of a table
name pairwise distinct numbers, and let a probe have answered an I/O APIC. Two lines arrive at one
number just when one of them is sent to the number of the other and the other has no override. A
call for a line leaves the entry of any other line's pin as it is, unless the two meet like that.
And after any calls since the probe, the pin of a line that meets no other called line is unmasked
with the vector of the line if the last call for the line unmasked it, and only then. -/
theorem lines_independent (hmap : Maps w map) (h : w.ready s)
    (hprobe : probe ({ madt := some t, model } : MadtPlatform) destination map s = .ok (.ok a) s')
    (hdistinct : t.DistinctTargets) (localApic : LocalApic L) (irqBase : UInt8) :
    let c : ApicController L I := { localApic, ioApic := a, irqBase }
    (∀ i j : UInt8, i ≠ j → (a.gsiOf i = a.gsiOf j ↔ t.Takes i j ∨ t.Takes j i))
      ∧ (∀ i j : UInt8, i ≠ j → ¬t.Takes i j → ¬t.Takes j i →
        ∀ k ∈ [LineCall.mask i, LineCall.unmask i], ∀ s₁, w.ready s₁ →
          ∃ s₂, c.call (m := EStateM Stop σ) k s₁ = .ok () s₂ ∧ w.ready s₂
            ∧ ∀ pin, a.pinOf (a.gsiOf j) = .ok pin →
              (w.registers s₂).entry pin = (w.registers s₁).entry pin)
      ∧ ∀ ks : List LineCall, ∃ s₂, c.calls (m := EStateM Stop σ) ks s' = .ok () s₂
        ∧ ∀ l pin, a.pinOf (a.gsiOf l) = .ok pin →
          (∀ k ∈ ks, k.line ≠ l → ¬t.Takes k.line l ∧ ¬t.Takes l k.line) →
          (((w.registers s₂).entry pin).isMasked = false
              ∧ ((w.registers s₂).entry pin).vector = irqBase + l
            ↔ (ks.filter fun k => k.line = l).getLast? = some (.unmask l)) := by
  intro c
  obtain ⟨⟨info, ha⟩, hruns⟩ := probe_eq_ok hmap h hprobe
  have hwired : c.ioApic.IsWired w := (ha ▸ isWired_probed _ info destination _ : a.IsWired w)
  have hheeds : a.Heeds t := fun irq => by rw [ha, override?_probed]
  have hmeet (i j : UInt8) (hij : i ≠ j) := hheeds.gsiOf_eq_iff hdistinct hij
  refine ⟨hmeet, fun i j hij hi hj k hk s₁ hready => ?_, fun ks => ?_⟩
  · obtain ⟨s₂, hcall, hready₂, hsettles⟩ := c.call_settles hwired hready k
    -- the call rewrites the pin of `i` alone, and `j` has another one
    refine ⟨s₂, hcall, hready₂, fun pin hpin => hsettles.leaves (fun heq => ?_) hpin⟩
    have hline : k.line = i := by
      rcases List.mem_pair.mp hk with rfl | rfl <;> rfl
    rw [hline] at heq
    exact ((hmeet i j hij).mp heq).elim hi hj
  · obtain ⟨s₂, hcalls, -, hsettled⟩ := c.calls_settle hwired hruns.ready ks
    refine ⟨s₂, hcalls, fun l pin hpin hkept => hsettled l pin hpin ?_ fun k hk hne heq => ?_⟩
    -- after the probe every pin is masked, which is where the induction over the calls begins
    · have hpins : a.pins = pinsOfVersion (w.registers s versionRegister) := by
        rw [ha, pins_probed]
      have hlt : pin.toNat < (pinsOfVersion (w.registers s versionRegister)).toNat :=
        hpins ▸ (pinOf_eq_ok.mp hpin).2.1
      rw [hruns.registers, setUpAccesses, RegisterFile.after_read,
        entry_after_maskWrites_zero _ (pinsOfVersion_bounds _).2 hlt]
      decide
    · obtain ⟨htakes, htaken⟩ := hkept k hk hne
      exact ((hmeet k.line l hne).mp heq).elim htakes htaken

end Probed

namespace Sim.LineRig

open IoApic

/-- The table of the rig. -/
def reroutedTable : Acpi.Madt := ⟨ProbeRig.reroutedImage.bytes⟩

/-- Lines 0 and 9 of this machine arrive at pins 2 and 1. Unmasking both and then masking the first
leaves just the second unmasked. -/
theorem lines_independent_nine :
    (Maps wiring (fun _ => pure (.ok windowSocket)) ∧ wiring.ready (serving 0x39)
        ∧ reroutedTable.DistinctTargets)
      ∧ ∃ a s', IoApic.probe (m := BenchM LineRig) ProbeRig.rerouted 5
          (fun _ => pure (.ok windowSocket)) (serving 0x39) = .ok (.ok a) s'
        ∧ a.pinOf (a.gsiOf 0) = .ok 2 ∧ a.pinOf (a.gsiOf 9) = .ok 1
        ∧ let c : ApicController (Socket LineRig RegisterPage) (Socket LineRig SelectWindow) :=
            { localApic, ioApic := a, irqBase := 0x30 }
          (¬reroutedTable.Takes 0 9 ∧ ¬reroutedTable.Takes 9 0)
            ∧ a.gsiOf 0 ≠ a.gsiOf 9
            ∧ (∀ k ∈ [LineCall.mask 0, .unmask 0], ∃ s₂,
              c.call (m := BenchM LineRig) k s' = .ok () s₂
              ∧ (wiring.registers s₂).entry 1 = (wiring.registers s').entry 1)
            ∧ ∃ s₂, c.calls (m := BenchM LineRig) [.unmask 0, .unmask 9, .mask 0] s' = .ok () s₂
              ∧ ((wiring.registers s₂).entry 1).isMasked = false
              ∧ ((wiring.registers s₂).entry 1).vector = 0x39
              ∧ ¬(((wiring.registers s₂).entry 2).isMasked = false
                ∧ ((wiring.registers s₂).entry 2).vector = 0x30) := by
  have hready : wiring.ready (serving 0x39) := rfl
  have hdistinct : reroutedTable.DistinctTargets := by decide +kernel
  have hoverrides : reroutedTable.Overrides 0 ∧ reroutedTable.Overrides 9 := by
    unfold Acpi.Madt.Overrides
    decide +kernel
  obtain ⟨a, s', hprobe, -, hzero, hnine, -⟩ := exists_probe_rerouted
  have hready' : wiring.ready s' := (probe_eq_ok maps_pure hready hprobe).2.ready
  -- both lines have overrides of their own, so neither takes the identity pin of the other
  have htakes : ¬reroutedTable.Takes 0 9 ∧ ¬reroutedTable.Takes 9 0 :=
    ⟨fun h => h.2.2 hoverrides.2, fun h => h.2.2 hoverrides.1⟩
  obtain ⟨hmeet, hleaves, hcalls⟩ :=
    lines_independent maps_pure hready hprobe hdistinct localApic 0x30
  refine ⟨⟨maps_pure, hready, hdistinct⟩, a, s', hprobe, hzero, hnine, ?_⟩
  intro c
  refine ⟨htakes, fun heq => ?_, fun k hk => ?_, ?_⟩
  · exact ((hmeet 0 9 (by decide)).mp heq).elim htakes.1 htakes.2
  · obtain ⟨s₂, hcall, -, hentry⟩ := hleaves 0 9 (by decide) htakes.1 htakes.2 k hk s' hready'
    exact ⟨s₂, hcall, hentry 1 hnine⟩
  · obtain ⟨s₂, hrun, hlast⟩ := hcalls [.unmask 0, .unmask 9, .mask 0]
    have hkept : ∀ k ∈ [LineCall.unmask 0, .unmask 9, .mask 0],
        (k.line ≠ 0 → k.line = 9) ∧ (k.line ≠ 9 → k.line = 0) := by decide
    obtain ⟨hmasked, hvector⟩ := (hlast 9 1 hnine fun k hk hne => by
      rw [(hkept k hk).2 hne]
      exact htakes).mpr rfl
    refine ⟨s₂, hrun, hmasked, hvector, fun hlive => ?_⟩
    have hzero' := (hlast 0 2 hzero fun k hk hne => by
      rw [(hkept k hk).1 hne]
      exact htakes.symm).mp hlive
    exact absurd hzero' (by decide)

/-- A table that sends interrupt 0 to number 2, and nothing else anywhere. -/
def timerImage : Acpi.MadtImage where
  maker := List.replicate 28 0
  maker_length := Acpi.MadtImage.length_blank
  lapicAddress := 0xFEE00000
  flags := 1
  entries :=
    [ .ioApic { id := 2, address := 0xFEC00000, gsiBase := 0 } 0 [],
      .interruptOverride { bus := 0, irq := 0, gsi := 2, flags := 0 } [] ]
  entry_fits := by decide
  fits := by decide

/-- **The timer takes the pin of line 2**: with this one override, masking line 0 masks what line 2
was unmasked at. -/
theorem timer_masks_line_two :
    (⟨timerImage.bytes⟩ : Acpi.Madt).DistinctTargets
      ∧ ∃ a s', IoApic.probe (m := BenchM LineRig)
          ({ madt := some ⟨timerImage.bytes⟩ } : Acpi.MadtPlatform) 5
          (fun _ => pure (.ok windowSocket)) (serving 0x39) = .ok (.ok a) s'
        ∧ let c : ApicController (Socket LineRig RegisterPage) (Socket LineRig SelectWindow) :=
            { localApic, ioApic := a, irqBase := 0x20 }
          (0 : UInt8).toNat < c.lines ∧ (2 : UInt8).toNat < c.lines
            ∧ a.pinOf (a.gsiOf 2) = .ok 2
            ∧ ∃ s₁ s₂, c.unmaskLine (m := BenchM LineRig) 2 s' = .ok () s₁
              ∧ ((wiring.registers s₁).entry 2).isMasked = false
              ∧ ((wiring.registers s₁).entry 2).vector = 0x22
              ∧ c.maskLine (m := BenchM LineRig) 0 s₁ = .ok () s₂
              ∧ ((wiring.registers s₂).entry 2).isMasked = true := by
  have hready : wiring.ready (serving 0x39) := rfl
  have hview : probeView { madt := some ⟨timerImage.bytes⟩ }
      (fun a => (a.pins, a.gsiBase, a.gsiOf 0, a.gsiOf 2)) = some (4, 0, 2, 2) := by decide +kernel
  obtain ⟨a, s', hprobe, hsees⟩ := exists_probe_of_view hview
  obtain ⟨hpins, hbase, hzero, htwo⟩ :
      a.pins = 4 ∧ a.gsiBase = 0 ∧ a.gsiOf 0 = 2 ∧ a.gsiOf 2 = 2 := by
    simpa only [Prod.mk.injEq] using hsees
  obtain ⟨⟨info, ha⟩, hruns⟩ := probe_eq_ok maps_pure hready hprobe
  have hwired : a.IsWired wiring := ha ▸ isWired_probed _ info 5 _
  have hpin : a.pinOf 2 = .ok 2 := pinOf_eq_ok.mpr (by rw [hpins, hbase]; decide)
  refine ⟨by decide +kernel, a, s', hprobe, ?_⟩
  intro c
  have hlines : c.lines = 16 := by
    unfold ApicController.lines
    rw [show c.ioApic.pins = 4 from hpins]
    rfl
  -- line 2 goes live at its identity pin, and masking line 0 reaches the same pin through its
  -- override
  obtain ⟨s₁, hunmask, hready₁, hunmasked⟩ := c.call_settles hwired hruns.ready (.unmask 2)
  obtain ⟨s₂, hmask, -, hmasked⟩ := c.call_settles hwired hready₁ (.mask 0)
  have hlt : (2 : UInt8).toNat < c.lines := by rw [hlines]; decide
  have hlt' : (0 : UInt8).toNat < c.lines := by rw [hlines]; decide
  have hpinTwo : a.pinOf (a.gsiOf 2) = .ok 2 := by rw [htwo]; exact hpin
  have hpinZero : a.pinOf (a.gsiOf 0) = .ok 2 := by rw [hzero]; exact hpin
  obtain ⟨hlive, hvector⟩ := ((hunmasked.answered hlt).served rfl 2 hpinTwo).1
  exact ⟨hlt', hlt, hpinTwo, s₁, s₂, hunmask, hlive, hvector, hmask,
    ((hmasked.answered hlt').served rfl 2 hpinZero).1⟩

end Sim.LineRig

end Interrupts
