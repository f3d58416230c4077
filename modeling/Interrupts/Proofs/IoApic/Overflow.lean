import Interrupts.Proofs.IoApic.PinArray

/-!
# What firmware can do to the driver of an I/O APIC

The first interrupt that an I/O APIC serves is a number from the firmware, and the number of its
pins comes from the hardware. A probe adds the two up on its way to naming the last interrupt in a
line, and a pin that does not exist is refused under the sum of its number and the first interrupt.
A sum that leaves its word stops the machine.

Here the driver runs against a `WindowWorld`, which answers accesses as it likes. A session is a
probe, and any calls to the controller after it. The main statement says which sessions return: as
soon as the first interrupt is not 0, there are some that do not.
-/

namespace Interrupts

/-! ## Computations that return on a condition -/

section ReturnsIff

variable {σ α β : Type}

/-- **A computation returns if a condition holds**, and otherwise stops with an overflow. -/
structure ReturnsIff (x : EStateM Stop σ α) (s : σ) (p : Prop) : Prop where
  returns : p → ∃ a s', x s = .ok a s'
  overflows : ¬p → ∃ s', x s = .error (.fault .addOverflow) s'

namespace ReturnsIff

variable {x : EStateM Stop σ α} {f : α → EStateM Stop σ β} {s s' : σ} {a : α} {p q : Prop}

theorem iff (h : ReturnsIff x s p) : (∃ a s', x s = .ok a s') ↔ p := by
  refine ⟨fun ⟨a, s', hrun⟩ => Classical.byContradiction fun hp => ?_, h.returns⟩
  obtain ⟨s'', hstops⟩ := h.overflows hp
  exact nomatch hrun.symm.trans hstops

theorem of_iff (h : ReturnsIff x s p) (hpq : p ↔ q) : ReturnsIff x s q :=
  propext hpq ▸ h

/-- A computation that returns anyway. -/
theorem of_ok (h : x s = .ok a s') (hp : p) : ReturnsIff x s p :=
  ⟨fun _ => ⟨a, s', h⟩, fun hn => absurd hp hn⟩

/-- A first part that returns anyway leaves the condition of the second one. -/
theorem after_ok (hx : x s = .ok a s') (hf : ReturnsIff (f a) s' p) :
    ReturnsIff (x >>= f) s p := by
  constructor <;> intro h <;> rw [bind_of_ok hx]
  · exact hf.returns h
  · exact hf.overflows h

/-- What a first part does is all that counts of it. -/
theorem congr_left {y : EStateM Stop σ α} (hxy : x s = y s') (h : ReturnsIff (y >>= f) s' p) :
    ReturnsIff (x >>= f) s p := by
  have hsame : (x >>= f) s = (y >>= f) s' := by rw [bind_apply, bind_apply, hxy]
  exact ⟨fun hp => hsame ▸ h.returns hp, fun hn => hsame ▸ h.overflows hn⟩

/-- **Of two parts, each has its own condition.** -/
theorem bind (hx : ReturnsIff x s p)
    (hf : ∀ a s', x s = .ok a s' → ReturnsIff (f a) s' q) : ReturnsIff (x >>= f) s (p ∧ q) := by
  by_cases hp : p
  · obtain ⟨a, s', hrun⟩ := hx.returns hp
    exact (after_ok hrun (hf a s' hrun)).of_iff (and_iff_right hp).symm
  · obtain ⟨s', hstops⟩ := hx.overflows hp
    refine ⟨fun h => absurd h.1 hp, fun _ => ⟨s', ?_⟩⟩
    rw [bind_apply, hstops]

/-- A second part that returns anyway adds no condition. -/
theorem bind_ok (hx : ReturnsIff x s p) (hf : ∀ a s', ∃ b s'', f a s' = .ok b s'') :
    ReturnsIff (x >>= f) s p := by
  refine (hx.bind (q := True) fun a s' _ => ?_).of_iff (iff_of_eq (and_true p))
  obtain ⟨b, s'', hrun⟩ := hf a s'
  exact of_ok hrun trivial

/-- Only the answer is changed. -/
theorem map (hx : ReturnsIff x s p) (f : α → β) : ReturnsIff (do pure (f (← x))) s p :=
  hx.bind_ok fun _ _ => ⟨_, _, rfl⟩

/-- **A sum returns if it fits into its word.** -/
theorem addWord32 (u v : UInt32) (s : σ) :
    ReturnsIff (Interrupts.addWord32 u v : EStateM Stop σ UInt32) s
      (u.toNat + v.toNat < 2 ^ 32) := by
  unfold Interrupts.addWord32
  by_cases hfits : u.toNat + v.toNat < UInt32.size
  · rw [if_pos hfits]
    exact of_ok rfl hfits
  · rw [if_neg hfits]
    exact ⟨fun h => absurd h hfits, fun _ => ⟨s, rfl⟩⟩

end ReturnsIff

end ReturnsIff

/-! ## Worlds behind a window -/

/-- **A world behind the window of an I/O APIC**, with a memory of type `W`. -/
class WindowWorld (W : Type) where
  /-- The window of a controller is mapped, or refused. -/
  map : Acpi.IoApicInfo → W → Except IoApicError Unit × W
  read : (offset : UInt64) → W → UInt32 × W
  write : (offset : UInt64) → (value : UInt32) → W → W

/-- **The world's memory, and the lines so far.** -/
structure WindowScene (W : Type) where
  world : W
  lines : List Record := []

/-- The monad of a driver in a world. -/
abbrev WindowM (W : Type) := EStateM Stop (WindowScene W)

namespace WindowM

variable {W : Type}

instance : Logger (WindowM W) where
  log level text := fun s => .ok () { s with lines := s.lines ++ [{ level, text }] }

variable [WindowWorld W]

instance : RegisterBus Unit (WindowM W) where
  read32 _ offset := fun s =>
    .ok (WindowWorld.read offset s.world).1 { s with world := (WindowWorld.read offset s.world).2 }
  write32 _ offset value := fun s =>
    .ok () { s with world := WindowWorld.write offset value s.world }

/-- Map the window of a controller. -/
def map (info : Acpi.IoApicInfo) : WindowM W (Except IoApicError Unit) := fun s =>
  .ok (WindowWorld.map info s.world).1 { s with world := (WindowWorld.map info s.world).2 }

/-- The version that is read from a window. -/
def versionOf (w : W) : UInt32 :=
  (WindowWorld.read IoApic.dataOffset
    (WindowWorld.write IoApic.selectOffset IoApic.versionRegister.toUInt32 w)).1

/-- **The controller that a probe finds and maps**, and the version that it reads there. -/
def found? {T : Type} [Acpi.PlatformTables T] (platform : T) (s : WindowScene W) :
    Option (Acpi.IoApicInfo × UInt32) :=
  if Acpi.PlatformTables.supported platform then
    match (Acpi.PlatformTables.search platform Acpi.MadtEntry.ioApicType
        Acpi.MadtEntry.ioApicLength .start).1 with
    | some (.ioApic info) =>
      match WindowWorld.map info s.world with
      | (.ok (), w) => some (info, versionOf w)
      | (.error _, _) => none
    | _ => none
  else none

end WindowM

/-! ## Sessions -/

/-- **A call to a controller**, about any pin or interrupt at all. -/
inductive PinCall where
  | enable (irq vector : UInt8)
  | disable (irq : UInt8)
  | write (pin : UInt32) (e : Redirection)
  | read (pin : UInt32)

/-- **The call needs no sum that leaves its word**: its pin exists, or else the interrupt of that
pin, counted from the first one, has a number. -/
def PinCall.Fits (gsiBase pins : UInt32) : PinCall → Prop
  | .write pin _ | .read pin => pin < pins ∨ gsiBase.toNat + pin.toNat < 2 ^ 32
  | .enable .. | .disable _ => True

namespace IoApic

/-- **The driver's other sums stay in their words**, whatever version is read: the number of pins,
of which there is at least one, and the numbers of the registers of the pins. -/
structure SumsFit (version : UInt32) : Prop where
  /-- The version tells the number of the last pin, and there is one pin more. -/
  reported : (reportedPins version).toNat = version.toNat / 65536 % 256 + 1
  /-- There is at least one pin, so the last one has a number. -/
  pins : 1 ≤ (pinsOfVersion version).toNat
  /-- The register of the low half of an entry. -/
  low : ∀ pin, pin < pinsOfVersion version → (lowRegister pin).toNat = 16 + 2 * pin.toNat
  /-- The register of its high half. -/
  high : ∀ pin, pin < pinsOfVersion version → (highRegister pin).toNat = 17 + 2 * pin.toNat

/-- They do, since no version is taken to describe more pins than there are registers for. -/
theorem sumsFit (version : UInt32) : SumsFit version := by
  obtain ⟨hone, hpins⟩ := pinsOfVersion_bounds version
  have hreach : ∀ pin, pin < pinsOfVersion version → pin.toNat < 120 := by
    intro pin hpin
    rw [UInt32.lt_iff_toNat_lt] at hpin
    omega
  exact
    { reported := toNat_reportedPins version
      pins := hone
      low := fun pin hpin => toNat_lowRegister (hreach pin hpin)
      high := fun pin hpin => toNat_highRegister (hreach pin hpin) }

section Drive

variable {R : Type} {m : Type → Type} [Monad m] [RegisterBus R m] [Logger m] [MonadExceptOf Stop m]

/-- **Make a call.** -/
def call (a : IoApic R) : PinCall → m PinReply
  | .enable irq vector => do pure ((← a.enable irq vector).map fun _ => none)
  | .disable irq => do pure ((← a.disable irq).map fun _ => none)
  | .write pin e => do pure ((← a.writeEntry pin e).map fun _ => none)
  | .read pin => do pure ((← a.readEntry pin).map some)

/-- **Make calls**, in order. -/
def callAll (a : IoApic R) : List PinCall → m (List PinReply)
  | [] => pure []
  | c :: cs => do
    let reply ← a.call c
    let replies ← a.callAll cs
    pure (reply :: replies)

end Drive

end IoApic

namespace WindowM

variable {W T : Type} [WindowWorld W] [Acpi.PlatformTables T]

/-- **A session**: a probe, and calls to the controller that it answers. -/
def session (platform : T) (destination : UInt8) (calls : List PinCall) :
    WindowM W (Except IoApicError (List PinReply)) := do
  match ← IoApic.probe platform destination map with
  | .error e => pure (.error e)
  | .ok a => do pure (.ok (← a.callAll calls))

/-- **The driver never stops** on what the firmware and the window say: every session returns. -/
def NeverStops (platform : T) (destination : UInt8) (s : WindowScene W) : Prop :=
  ∀ calls, ∃ r s', session platform destination calls s = .ok r s'

end WindowM

/-! ## Calls -/

section Calls

variable {W : Type} [WindowWorld W] (a : IoApic Unit) (s : WindowScene W)

theorem WindowM.writePin_ok (window : Unit) (pin : UInt32) (e : Redirection) :
    ∃ s', IoApic.writePin (m := WindowM W) window pin e s = .ok () s' :=
  ⟨_, rfl⟩

namespace IoApic

omit [WindowWorld W] in
theorem returnsIff_refusePin {α : Type} (pin : UInt32) :
    ReturnsIff (a.refusePin pin : WindowM W (Except IoApicError α)) s
      (a.gsiBase.toNat + pin.toNat < 2 ^ 32) :=
  (ReturnsIff.addWord32 _ _ s).bind_ok fun _ _ => ⟨_, _, rfl⟩

omit [WindowWorld W] in
/-- An operation on the entry of a pin, which returns where there is such a pin. -/
theorem returnsIff_onPin {α : Type} (pin : UInt32) {x : WindowM W (Except IoApicError α)}
    (hx : ∃ r s', x s = .ok r s') :
    ReturnsIff (if pin < a.pins then x else a.refusePin pin) s
      (pin < a.pins ∨ a.gsiBase.toNat + pin.toNat < 2 ^ 32) := by
  by_cases hpin : pin < a.pins
  · obtain ⟨r, s', hrun⟩ := hx
    rw [if_pos hpin]
    exact .of_ok hrun (.inl hpin)
  · rw [if_neg hpin]
    exact (a.returnsIff_refusePin s pin).of_iff (or_iff_right hpin).symm

theorem returnsIff_readEntry (pin : UInt32) :
    ReturnsIff (a.readEntry pin : WindowM W _) s
      (pin < a.pins ∨ a.gsiBase.toNat + pin.toNat < 2 ^ 32) :=
  a.returnsIff_onPin s pin ⟨_, _, rfl⟩

theorem returnsIff_writeEntry (pin : UInt32) (e : Redirection) :
    ReturnsIff (a.writeEntry pin e : WindowM W _) s
      (pin < a.pins ∨ a.gsiBase.toNat + pin.toNat < 2 ^ 32) :=
  a.returnsIff_onPin s pin ⟨_, _, rfl⟩

/-- Enabling an interrupt never stops, whatever the window answers. -/
theorem enable_ok (irq vector : UInt8) :
    ∃ r s', a.enable (m := WindowM W) irq vector s = .ok r s' := by
  unfold enable
  cases a.pinOf (a.gsiOf irq) with
  | error e => exact ⟨_, _, rfl⟩
  | ok pin => exact ⟨_, _, rfl⟩

/-- The pin that serves an interrupt exists, and so its entry can be read. -/
theorem disable_ok (irq : UInt8) : ∃ r s', a.disable (m := WindowM W) irq s = .ok r s' := by
  unfold disable
  cases hpin : a.pinOf (a.gsiOf irq) with
  | error e => exact ⟨_, _, rfl⟩
  | ok pin =>
    have hlt : pin < a.pins := (pinOf_eq_ok.mp hpin).2.1
    obtain ⟨entry, s₁, hread⟩ := (a.returnsIff_readEntry s pin).returns (.inl hlt)
    dsimp only
    rw [bind_of_ok hread]
    cases entry with
    | error e => exact ⟨_, _, rfl⟩
    | ok entry => exact ⟨_, _, rfl⟩

/-- **A call returns if it fits.** -/
theorem returnsIff_call (c : PinCall) :
    ReturnsIff (a.call c : WindowM W PinReply) s (c.Fits a.gsiBase a.pins) := by
  cases c with
  | enable irq vector =>
    obtain ⟨r, s', hrun⟩ := a.enable_ok s irq vector
    exact .after_ok hrun (.of_ok rfl trivial)
  | disable irq =>
    obtain ⟨r, s', hrun⟩ := a.disable_ok s irq
    exact .after_ok hrun (.of_ok rfl trivial)
  | write pin e => exact (a.returnsIff_writeEntry s pin e).map _
  | read pin => exact (a.returnsIff_readEntry s pin).map _

/-- **Calls return if all of them fit.** -/
theorem returnsIff_callAll (cs : List PinCall) :
    ReturnsIff (a.callAll cs : WindowM W (List PinReply)) s
      (∀ c ∈ cs, c.Fits a.gsiBase a.pins) := by
  induction cs generalizing s with
  | nil => exact .of_ok rfl fun c hc => nomatch hc
  | cons c cs ih =>
    refine ((a.returnsIff_call s c).bind fun reply s₁ _ => (ih s₁).map (reply :: ·)).of_iff ?_
    exact List.forall_mem_cons.symm

end IoApic

end Calls

/-! ## Probes -/

section Probes

variable {W T : Type} [WindowWorld W] [Acpi.PlatformTables T] (platform : T)
  (destination : UInt8) (s : WindowScene W)

/-- **What a probe does last**: it says in a line which interrupts the controller serves. -/
def IoApic.announce {R : Type} {m : Type → Type} [Monad m] [Logger m] [MonadExceptOf Stop m]
    (a : IoApic R) : m (Except IoApicError (IoApic R)) := do
  let past ← addWord32 a.gsiBase a.pins
  let last := past - 1
  log .info (s!"IOAPIC: ID {hex0x a.id.toNat} @ phys {hex0x a.physAddress.toNat}, " ++
    s!"GSIs {a.gsiBase.toNat}-{last.toNat}, version {hex0x (a.version &&& 0xff).toNat}")
  pure (.ok a)

namespace WindowM

omit [WindowWorld W] in
theorem returnsIff_announce (a : IoApic Unit) :
    ReturnsIff (a.announce : WindowM W _) s (a.gsiBase.toNat + a.pins.toNat < 2 ^ 32) :=
  (ReturnsIff.addWord32 _ _ s).bind_ok fun _ _ => ⟨_, _, rfl⟩

omit [WindowWorld W] in
/-- An announcement that returns answers the controller it was about. -/
theorem eq_of_announce_eq_ok {a : IoApic Unit} {s' : WindowScene W}
    {r : Except IoApicError (IoApic Unit)} (h : a.announce (m := WindowM W) s = .ok r s') :
    r = .ok a := by
  obtain ⟨past, s₁, -, hline⟩ := bind_eq_ok.mp h
  cases hline
  rfl

/-- Masking the pins never stops, and neither do the steps that follow it in a probe, down to the
announcement. -/
theorem maskFrom_ok (window : Unit) (count : Nat) (pin : UInt32) :
    ∃ s', IoApic.maskFrom (m := WindowM W) window count pin s = .ok () s' := by
  induction count generalizing pin s with
  | zero => exact ⟨s, rfl⟩
  | succ count ih =>
    obtain ⟨s₁, hwrite⟩ := writePin_ok s window pin .masked
    obtain ⟨s₂, hrest⟩ := ih s₁ (pin + 1)
    exact ⟨s₂, bind_eq_ok.mpr ⟨(), s₁, hwrite, hrest⟩⟩

omit [WindowWorld W] in
theorem warnOfExcess_ok (version : UInt32) :
    ∃ s', IoApic.warnOfExcess (m := WindowM W) version s = .ok () s' := by
  unfold IoApic.warnOfExcess
  by_cases hexcess : IoApic.maxPins < IoApic.reportedPins version
  · exact ⟨_, by rw [if_pos hexcess]; rfl⟩
  · exact ⟨s, by rw [if_neg hexcess]; rfl⟩

omit [WindowWorld W] in
/-- Scanning the overrides notes them in the order of the table. -/
theorem scanOverrides_ok (es : List Acpi.MadtEntry) (a : IoApic Unit) :
    ∃ s', IoApic.scanOverrides (m := WindowM W) es a s = .ok (es.foldl IoApic.note a) s' := by
  induction es generalizing a s with
  | nil => exact ⟨s, rfl⟩
  | cons e es ih =>
    unfold IoApic.scanOverrides
    rw [List.foldl_cons, IoApic.note]
    cases hnote : a.noteOverride e with
    | none => exact ih s a
    | some p => exact ih _ p.2

/-- **A controller that is set up** is announced. -/
theorem setUp_eq_announce (info : Acpi.IoApicInfo) (window : Unit) :
    ∃ s', IoApic.setUp (m := WindowM W) platform destination info window s
      = (IoApic.probed platform info destination window (versionOf s.world)).announce
        (m := WindowM W) s' := by
  obtain ⟨s₁, hversion⟩ : ∃ s₁, IoApic.readRegister (m := WindowM W) window IoApic.versionRegister s
      = .ok (versionOf s.world) s₁ := ⟨_, rfl⟩
  obtain ⟨s₂, hwarn⟩ := warnOfExcess_ok s₁ (versionOf s.world)
  obtain ⟨s₃, hmask⟩ := maskFrom_ok s₂ window (IoApic.pinsOfVersion (versionOf s.world)).toNat 0
  obtain ⟨s₄, hscan⟩ := scanOverrides_ok s₃
    (Acpi.PlatformTables.entriesOf platform Acpi.MadtEntry.overrideType
      Acpi.MadtEntry.overrideLength)
    (IoApic.described info destination window (versionOf s.world))
  refine ⟨s₄, ?_⟩
  unfold IoApic.setUp
  rw [bind_of_ok hversion, bind_of_ok hwarn, bind_of_ok hmask]
  exact bind_of_ok hscan

/-- **A probe returns an error, or announces the controller that it finds.** -/
theorem probe_found (s : WindowScene W) :
    (found? platform s = none
        ∧ ∃ e s', IoApic.probe platform destination map s = .ok (.error e) s')
      ∨ ∃ info version s', found? platform s = some (info, version)
        ∧ IoApic.probe platform destination map s
          = (IoApic.probed platform info destination () version).announce (m := WindowM W) s' := by
  unfold found? IoApic.probe
  cases hsupported : Acpi.PlatformTables.supported platform with
  | false => exact .inl ⟨rfl, _, _, rfl⟩
  | true =>
    rw [if_pos rfl]
    -- Only an entry of an I/O APIC whose window can be mapped leads any further.
    generalize (Acpi.PlatformTables.search platform Acpi.MadtEntry.ioApicType
      Acpi.MadtEntry.ioApicLength .start).1 = entry
    rcases entry with _ | (_ | info | _ | _)
    case some.ioApic =>
      dsimp only
      cases hmap : WindowWorld.map info s.world with
      | mk answer w =>
        have hrun : map info s = .ok answer { s with world := w } := by
          rw [map, hmap]
        cases answer with
        | error e => exact .inl ⟨rfl, e, _, bind_of_ok hrun⟩
        | ok window =>
          obtain ⟨s', hannounce⟩ :=
            setUp_eq_announce platform destination { s with world := w } info window
          exact .inr ⟨info, versionOf w, s', rfl, (bind_of_ok hrun).trans hannounce⟩
    all_goals exact .inl ⟨rfl, _, _, rfl⟩

/-- **A session returns if the number past the last interrupt fits into a word**, where a controller
is found, and all calls fit. -/
theorem returnsIff_session (calls : List PinCall) :
    ReturnsIff (session platform destination calls) s
      (∀ info version, found? platform s = some (info, version) →
        info.gsiBase.toNat + (IoApic.pinsOfVersion version).toNat < 2 ^ 32
          ∧ ∀ c ∈ calls, c.Fits info.gsiBase (IoApic.pinsOfVersion version)) := by
  rcases probe_found platform destination s with
    ⟨hnone, e, s', hprobe⟩ | ⟨info, version, s', hfound, hprobe⟩
  · refine .after_ok hprobe (.of_ok rfl ?_)
    intro info version hfound
    exact nomatch hnone.symm.trans hfound
  · have hprobed := IoApic.probed_eq platform info destination () version
    generalize IoApic.probed platform info destination () version = a at hprobe hprobed
    have hbase : a.gsiBase = info.gsiBase := by
      rw [hprobed]
      rfl
    have hpins : a.pins = IoApic.pinsOfVersion version := by
      rw [hprobed]
      rfl
    -- The announcement needs the sum of base and pins, and each call what it computes itself;
    -- nothing else can stop the session.
    have hcalls : ReturnsIff (session platform destination calls) s
        (a.gsiBase.toNat + a.pins.toNat < 2 ^ 32 ∧ ∀ c ∈ calls, c.Fits a.gsiBase a.pins) := by
      refine .congr_left hprobe ((returnsIff_announce s' a).bind fun r s₁ hr => ?_)
      rw [eq_of_announce_eq_ok s' hr]
      exact (a.returnsIff_callAll s₁ calls).map _
    refine hcalls.of_iff ?_
    rw [hbase, hpins]
    constructor
    · rintro h info' version' hfound'
      cases hfound.symm.trans hfound'
      exact h
    · exact fun h => h info version hfound

/-! ## What the firmware can do -/

/-- **What the firmware can do to the driver.** A session returns exactly if the number past the last
interrupt of the controller that is found fits into a word, and so does the number of the interrupt
of every pin that is called in vain; otherwise it stops with an overflow. Enabling and disabling
interrupts stops no session. So the driver never stops if no controller is found, or one whose first
interrupt is 0; and where the firmware puts the first interrupt anywhere else, some session stops.
No other sum that the driver makes leaves its word. -/
theorem neverStops_iff :
    (NeverStops platform destination s
        ↔ ∀ info version, found? platform s = some (info, version) → info.gsiBase = 0)
      ∧ (∀ calls, ReturnsIff (session platform destination calls) s
          (∀ info version, found? platform s = some (info, version) →
            info.gsiBase.toNat + (IoApic.pinsOfVersion version).toNat < 2 ^ 32
              ∧ ∀ c ∈ calls, c.Fits info.gsiBase (IoApic.pinsOfVersion version)))
      ∧ ∀ version, IoApic.SumsFit version := by
  refine ⟨⟨fun hnever info version hfound => ?_, fun hzero calls => ?_⟩,
    returnsIff_session platform destination s, IoApic.sumsFit⟩
  · by_contra hne
    have hpos : info.gsiBase.toNat ≠ 0 := fun h => hne (UInt32.toNat_inj.mp h)
    -- the pin whose interrupt would be the first one past the last number
    have hpin : (0 - info.gsiBase).toNat = 2 ^ 32 - info.gsiBase.toNat := by
      have := info.gsiBase.toNat_lt
      rw [UInt32.toNat_sub, UInt32.toNat_zero]
      omega
    obtain ⟨hlast, hcalls⟩ :=
      (returnsIff_session platform destination s [.read (0 - info.gsiBase)]).iff.mp
        (hnever _) info version hfound
    rcases hcalls _ List.mem_cons_self with hlt | hfits
    · rw [UInt32.lt_iff_toNat_lt] at hlt
      omega
    · omega
  · refine (returnsIff_session platform destination s calls).returns fun info version hfound => ?_
    rw [hzero info version hfound, UInt32.toNat_zero]
    have hpins := (IoApic.pinsOfVersion_bounds version).2
    refine ⟨by omega, fun c _ => ?_⟩
    cases c with
    | enable irq vector => exact trivial
    | disable irq => exact trivial
    | write pin e => exact .inr (by have := pin.toNat_lt; rw [UInt32.toNat_zero]; omega)
    | read pin => exact .inr (by have := pin.toNat_lt; rw [UInt32.toNat_zero]; omega)

end WindowM

end Probes

namespace WindowM

open Sim (SelectWindow)

instance : WindowWorld SelectWindow where
  map _ w := (.ok (), w)
  read := SelectWindow.read
  write := SelectWindow.write

/-- A table with one I/O APIC, whose interrupts begin at the last number there is. -/
def topmostImage : Acpi.MadtImage where
  maker := List.replicate 28 0
  maker_length := Acpi.MadtImage.length_blank
  lapicAddress := 0xFEE00000
  flags := 1
  entries := [.ioApic { id := 255, address := 0xFEC00000, gsiBase := 0xFFFFFFFF } 0 []]
  entry_fits := by decide
  fits := by decide

/-- The platform of this table. -/
def topmost : Acpi.MadtPlatform where
  madt := some ⟨topmostImage.bytes⟩

/-- A controller of one pin. -/
def onePin : WindowScene SelectWindow where
  world := ({} : SelectWindow).preset 0x01 0x11

/-- What a computation stops with, if it does. -/
def stop? {W α : Type} : EStateM.Result Stop (WindowScene W) α → Option Stop
  | .ok _ _ => none
  | .error e _ => some e

/-- **One pin is enough**: the last interrupt has a number, but the sum on the way to it has
none. -/
theorem not_neverStops_topmost :
    Acpi.Madt.parse topmostImage.bytes = .ok ⟨topmostImage.bytes⟩
      ∧ ¬NeverStops topmost 9 onePin := by
  have hstops : stop? (session topmost 9 [] onePin) = some (.fault .addOverflow) := by
    decide +kernel
  refine ⟨by decide +kernel, fun hnever => ?_⟩
  obtain ⟨r, s', hrun⟩ := hnever []
  rw [hrun] at hstops
  exact nomatch hstops

end WindowM

end Interrupts
