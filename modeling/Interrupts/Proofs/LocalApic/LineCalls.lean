import Interrupts.Proofs.LocalApic.Numbering

/-!
# Calls for lines of the APICs

A line of the two APICs can be masked and unmasked. Either call rewrites the entry of one pin, the
one that the line arrives at, and leaves the entries of all others alone; when the line arrives
elsewhere than at this I/O APIC, the call ends in a line of log and changes no register. Which of
the two happened is not told to whoever makes the call: the registry accepts it when the controller
has so many lines, whether they have pins or not.
-/

namespace Interrupts

/-- **A call for a line.** -/
inductive LineCall where
  | mask (line : UInt8)
  | unmask (line : UInt8)
  deriving DecidableEq, Repr

namespace LineCall

/-- The line that the call is for. -/
def line : LineCall → UInt8
  | mask l => l
  | unmask l => l

/-- What is logged when the line has no pin. -/
def warning (e : IoApicError) : LineCall → String
  | mask l => s!"IRQ: Cannot mask line {l.toNat}: {e.describe}"
  | unmask l => s!"IRQ: Cannot unmask line {l.toNat}: {e.describe}"

end LineCall

/-- The last element with a property, when one more element comes in the end. -/
theorem getLast?_filter_concat {α : Type} (p : α → Bool) (l : List α) (a : α) :
    ((l ++ [a]).filter p).getLast? = if p a then some a else (l.filter p).getLast? := by
  rw [List.filter_append]
  cases ha : p a with
  | true =>
    rw [List.filter_cons_of_pos ha, List.filter_nil, List.getLast?_concat]
    rfl
  | false =>
    rw [List.filter_cons_of_neg (by rw [ha]; exact Bool.false_ne_true), List.filter_nil,
      List.append_nil]
    rfl

/-- A line that is rearmed has nothing reported. -/
theorem Registry.isReported_rearm {H : Type} (r : Registry H) (irq : UInt8) :
    (r.rearm irq).isReported irq = false := by
  unfold isReported rearm
  rw [r.line?_modifyLine, if_pos rfl]
  cases r.line? irq <;> rfl

variable {L I σ : Type} [RegisterBus L (EStateM Stop σ)] [RegisterBus I (EStateM Stop σ)]
  [Logger (EStateM Stop σ)]

namespace ApicController

/-- Make a call for a line. -/
def call {m : Type → Type} [Monad m] [MonadExceptOf Stop m] [Logger m] [RegisterBus I m]
    (c : ApicController L I) : LineCall → m Unit
  | .mask l => c.maskLine l
  | .unmask l => c.unmaskLine l

/-- **The entry that a call leaves** at a pin that had this one. -/
def rewrite (c : ApicController L I) (e : Redirection) : LineCall → Redirection
  | .mask _ => e.withMasked true
  | .unmask l => c.ioApic.entryFor l (c.irqBase + l)

/-- **The entry is as a call wants it**: masked, or unmasked with the vector of the line. -/
def Shows (c : ApicController L I) (e : Redirection) : LineCall → Prop
  | .mask _ => e.isMasked = true
  | .unmask l => e.isMasked = false ∧ e.vector = c.irqBase + l

/-- What a call writes into an entry shows the call: the mask bit, and for an unmasking the vector
as well. -/
theorem shows_rewrite (c : ApicController L I) (e : Redirection) (k : LineCall) :
    c.Shows (c.rewrite e k) k := by
  cases k with
  | mask l => exact Redirection.isMasked_withMasked e true
  | unmask l =>
    show (c.ioApic.entryFor l _).isMasked = false ∧ (c.ioApic.entryFor l _).vector = _
    rw [IoApic.entryFor_eq_route]
    exact ⟨Redirection.isMasked_route _ _ _ _, Redirection.vector_route _ _ _ _⟩

variable {c : ApicController L I} {w : Wiring I σ} {s : σ} {k : LineCall} {pin : UInt32}

/-! ## One call -/

/-- **What a call comes to**: its pin is rewritten and no other, or it has none and a line is
logged. -/
inductive Settles (c : ApicController L I) (w : Wiring I σ) (k : LineCall) (s s' : σ) : Prop where
  /-- The line has a pin, whose entry is rewritten for the call. -/
  | rewritten (pin : UInt32) (hpin : c.ioApic.pinOf (c.ioApic.gsiOf k.line) = .ok pin)
      (entry : (w.registers s').entry pin = c.rewrite ((w.registers s).entry pin) k)
      (others : ∀ other, other < c.ioApic.pins → other ≠ pin →
        (w.registers s').entry other = (w.registers s).entry other)
  /-- The line has none: the reason is logged, and no register changes. -/
  | warned (e : IoApicError) (hpin : c.ioApic.pinOf (c.ioApic.gsiOf k.line) = .error e)
      (line : log (m := EStateM Stop σ) .warn (k.warning e) s = .ok () s')
      (registers : w.registers s' = w.registers s)

omit [RegisterBus L (EStateM Stop σ)] in
/-- A call for a line with a pin writes the entry of the pin, whatever it reads before. -/
theorem runs_call (hc : c.ioApic.IsWired w) (h : w.ready s)
    (hpin : c.ioApic.pinOf (c.ioApic.gsiOf k.line) = .ok pin) :
    ∃ es s', w.Runs (c.call k) s () es s' ∧ (w.registers s).after es
      = (w.registers s).after (IoApic.pinWrites pin (c.rewrite ((w.registers s).entry pin) k)) := by
  cases k with
  | mask l =>
    obtain ⟨s₁, hdisable⟩ := IoApic.runs_disable hc h hpin
    obtain ⟨s₂, hruns⟩ : ∃ s₂, w.Runs (c.maskLine l) s () _ s₂ := by
      unfold maskLine
      exact hdisable.bind_nil (Wiring.runs_pure hdisable.ready ())
    exact ⟨_, s₂, hruns, rfl⟩
  | unmask l =>
    obtain ⟨s₁, henable⟩ := IoApic.runs_enable hc h hpin (c.irqBase + l)
    obtain ⟨s₂, hruns⟩ : ∃ s₂, w.Runs (c.unmaskLine l) s () _ s₂ := by
      unfold unmaskLine
      exact henable.bind_nil (Wiring.runs_pure henable.ready ())
    exact ⟨_, s₂, hruns, rfl⟩

omit [RegisterBus L (EStateM Stop σ)] in
/-- A call for a line without a pin only logs. -/
theorem call_of_refused {e : IoApicError}
    (hpin : c.ioApic.pinOf (c.ioApic.gsiOf k.line) = .error e) :
    c.call (m := EStateM Stop σ) k = log .warn (k.warning e) := by
  cases k with
  | mask l =>
    have hrefused : c.ioApic.disable (m := EStateM Stop σ) l = pure (.error e) :=
      IoApic.disable_of_refused hpin
    unfold call maskLine
    dsimp only
    rw [hrefused, pure_bind]
    rfl
  | unmask l =>
    have hrefused : c.ioApic.enable (m := EStateM Stop σ) l (c.irqBase + l) = pure (.error e) :=
      IoApic.enable_of_refused hpin
    unfold call unmaskLine
    dsimp only
    rw [hrefused, pure_bind]
    rfl

omit [RegisterBus L (EStateM Stop σ)] in
/-- **Every call returns and settles.** -/
theorem call_settles (hc : c.ioApic.IsWired w) (h : w.ready s) (k : LineCall) :
    ∃ s', c.call (m := EStateM Stop σ) k s = .ok () s' ∧ w.ready s' ∧ c.Settles w k s s' := by
  cases hpin : c.ioApic.pinOf (c.ioApic.gsiOf k.line) with
  | error e =>
    obtain ⟨s', hlog⟩ := w.runs_log h .warn (k.warning e)
    exact ⟨s', by rw [call_of_refused hpin, hlog.run], hlog.ready,
      .warned e hpin hlog.run hlog.registers⟩
  | ok pin =>
    obtain ⟨es, s', hruns, hes⟩ := runs_call hc h hpin
    have hregisters := hruns.registers.trans hes
    have hlt := Nat.lt_of_lt_of_le (IoApic.pinOf_eq_ok.mp hpin).2.1 hc.pins
    refine ⟨s', hruns.run, hruns.ready, .rewritten pin hpin ?_ fun other hother hne => ?_⟩
    · rw [hregisters, RegisterFile.entry_after_pinWrites _ _ hlt]
    · rw [hregisters, RegisterFile.entry_after_pinWrites_of_ne _ _ hlt
        (Nat.lt_of_lt_of_le hother hc.pins) hne]

/-! ## Calls through the registry -/

/-- **What an answer of the registry means.** -/
structure Answered (c : ApicController L I) (w : Wiring I σ) (k : LineCall)
    (reply : Except IrqError Unit) (s s' : σ) : Prop where
  /-- The call is accepted when the controller has so many lines. -/
  accepted : reply = .ok () ↔ k.line.toNat < c.lines
  /-- Then the entry of the pin, if the line has one, is as the call wants it, and no other entry
  has changed. -/
  served : reply = .ok () → ∀ pin, c.ioApic.pinOf (c.ioApic.gsiOf k.line) = .ok pin →
    c.Shows ((w.registers s').entry pin) k
      ∧ ∀ other, other < c.ioApic.pins → other ≠ pin →
        (w.registers s').entry other = (w.registers s).entry other
  /-- If it has none, a line is logged, and no register has changed. -/
  unserved : reply = .ok () → ∀ e, c.ioApic.pinOf (c.ioApic.gsiOf k.line) = .error e →
    log (m := EStateM Stop σ) .warn (k.warning e) s = .ok () s' ∧ w.registers s' = w.registers s
  /-- A refusal names the line, and nothing has changed. -/
  refused : ∀ e, reply = .error e → e = .invalidLine k.line ∧ s' = s

omit [RegisterBus L (EStateM Stop σ)] in
/-- A call that settles meets the reply of the registry: accepted below the line count, served at
its pin if the line has one, and warned of otherwise. -/
theorem Settles.answered {s' : σ} (h : c.Settles w k s s') (hk : k.line.toNat < c.lines) :
    c.Answered w k (.ok ()) s s' where
  accepted := iff_of_true rfl hk
  served := by
    rintro - pin hpin
    cases h with
    | rewritten pin' hpin' entry others =>
      cases hpin'.symm.trans hpin
      exact ⟨entry ▸ shows_rewrite c _ k, others⟩
    | warned e he => exact nomatch he.symm.trans hpin
  unserved := by
    rintro - e he
    cases h with
    | rewritten pin hpin => exact nomatch hpin.symm.trans he
    | warned e' he' line registers =>
      cases he'.symm.trans he
      exact ⟨line, registers⟩
  refused := nofun

omit [RegisterBus L (EStateM Stop σ)] in
/-- Refusing a line that the controller does not have. -/
theorem answered_of_le (hk : c.lines ≤ k.line.toNat) :
    c.Answered w k (.error (.invalidLine k.line)) s s where
  accepted := iff_of_false nofun (Nat.not_lt_of_le hk)
  served := nofun
  unserved := nofun
  refused _ he := ⟨(Except.error.inj he).symm, rfl⟩

section Registry

variable {H : Type} (r : Registry H) {l : UInt8}

/-- The registry masks every line of the controller. -/
theorem registry_maskLine (hl : l.toNat < c.lines) :
    Registry.maskLine (m := EStateM Stop σ) c l = (do
      c.maskLine l
      pure (.ok ()) : EStateM Stop σ (Except IrqError Unit)) := by
  unfold Registry.maskLine
  rw [show Controller.lineCount c = (pure c.lines : EStateM Stop σ Nat) from rfl, pure_bind,
    if_neg (Nat.not_le_of_lt hl)]
  rfl

/-- It refuses to mask any other line. -/
theorem registry_maskLine_of_le (hl : c.lines ≤ l.toNat) :
    Registry.maskLine (m := EStateM Stop σ) c l = pure (.error (.invalidLine l)) := by
  unfold Registry.maskLine
  rw [show Controller.lineCount c = (pure c.lines : EStateM Stop σ Nat) from rfl, pure_bind,
    if_pos hl]

/-- It refuses to unmask any other line. -/
theorem registry_unmaskLine_of_le (hl : c.lines ≤ l.toNat) :
    r.unmaskLine (m := EStateM Stop σ) c l = pure (.error (.invalidLine l), r) := by
  unfold Registry.unmaskLine
  rw [show Controller.lineCount c = (pure c.lines : EStateM Stop σ Nat) from rfl, pure_bind,
    if_pos hl]

end Registry

end ApicController

section Probed

open IoApic

variable {w : Wiring I σ} {s s' s₁ : σ} {T : Type} [Acpi.PlatformTables T] {platform : T}
  {destination : UInt8} {map : Acpi.IoApicInfo → EStateM Stop σ (Except IoApicError I)}
  {a : IoApic I}

/-- **What the registry's answer tells about the I/O APIC**, for every base that a command line
chooses, every I/O APIC that a probe answers and every line. The registry accepts to mask or unmask
a line when the controller has so many lines. If the line then arrives at a pin, the entry of this
pin is masked, or unmasked with the vector of the line, and all other entries are as they were; if
it arrives at none, a warning is logged, and no register has changed. Unmasking makes the registry
report the next unclaimed delivery again in either case. A line that is refused leaves everything as
it was. -/
theorem registry_answers (hmap : Maps w map) (h : w.ready s)
    (hprobe : probe platform destination map s = .ok (.ok a) s') (localApic : LocalApic L)
    (line : Option String) (irq : UInt8) (h₁ : w.ready s₁) :
    let c : ApicController L I :=
      { localApic, ioApic := a, irqBase := (Config.ofCommandLine line).masterBase }
    (∃ reply s₂, Registry.maskLine (m := EStateM Stop σ) c irq s₁ = .ok reply s₂ ∧ w.ready s₂
        ∧ c.Answered w (.mask irq) reply s₁ s₂)
      ∧ ∀ {H : Type} (r : Registry H), ∃ reply r' s₂,
        r.unmaskLine (m := EStateM Stop σ) c irq s₁ = .ok (reply, r') s₂ ∧ w.ready s₂
          ∧ c.Answered w (.unmask irq) reply s₁ s₂
          ∧ (reply = .ok () → r' = r.rearm irq ∧ r'.isReported irq = false)
          ∧ ∀ e, reply = .error e → r' = r := by
  intro c
  -- the driver that a probe returns reads and writes the window it was given, whatever the line
  obtain ⟨⟨info, ha⟩, -⟩ := probe_eq_ok hmap h hprobe
  have hwired : a.IsWired w := ha ▸ isWired_probed platform info destination _
  have hbase : 0x20 ≤ c.irqBase.toNat := (Config.isSound_ofCommandLine line).masterBase.1
  by_cases hirq : irq.toNat < c.lines
  · obtain ⟨s₂, hmask, hready₂, hmasks⟩ := c.call_settles hwired h₁ (.mask irq)
    obtain ⟨s₃, hunmask, hready₃, hunmasks⟩ := c.call_settles hwired h₁ (.unmask irq)
    refine ⟨⟨.ok (), s₂, ?_, hready₂, hmasks.answered hirq⟩, fun r =>
      ⟨.ok (), r.rearm irq, s₃, ?_, hready₃, hunmasks.answered hirq, fun _ =>
        ⟨rfl, r.isReported_rearm irq⟩, nofun⟩⟩
    · rw [c.registry_maskLine hirq]
      exact bind_of_ok hmask
    · rw [c.registry_unmaskLine r hbase hirq]
      exact bind_of_ok hunmask
  -- beyond the line count the registry answers alone, and the controller is never called
  · have hle := Nat.le_of_not_lt hirq
    refine ⟨⟨_, s₁, ?_, h₁, ApicController.answered_of_le hle⟩, fun r => ⟨_, r, s₁, ?_, h₁,
      ApicController.answered_of_le hle, nofun, fun _ _ => rfl⟩⟩
    · exact congrFun (c.registry_maskLine_of_le hle) s₁
    · exact congrFun (c.registry_unmaskLine_of_le r hle) s₁

end Probed

namespace Sim.LineRig

open IoApic

/-- Line 9 of this machine is unmasked at the second pin, and masked there; line 16 is none of its
lines. -/
theorem registry_answers_nine :
    (Maps wiring (fun _ => pure (.ok windowSocket)) ∧ wiring.ready (serving 0x39))
      ∧ ∃ a s', IoApic.probe (m := BenchM LineRig) ProbeRig.rerouted 5
          (fun _ => pure (.ok windowSocket)) (serving 0x39) = .ok (.ok a) s'
        ∧ wiring.ready s'
        ∧ let c : ApicController (Socket LineRig RegisterPage) (Socket LineRig SelectWindow) :=
            { localApic, ioApic := a
              irqBase := (Config.ofCommandLine (some "irq.pic_master=0x30")).masterBase }
          (∃ r' s₂, (Registry.empty : Registry LineCase).unmaskLine (m := BenchM LineRig) c 9 s'
              = .ok (.ok (), r') s₂
            ∧ ((wiring.registers s₂).entry 1).isMasked = false
            ∧ ((wiring.registers s₂).entry 1).vector = 0x39)
          ∧ (∃ s₂, Registry.maskLine (m := BenchM LineRig) c 9 s' = .ok (.ok ()) s₂
            ∧ ((wiring.registers s₂).entry 1).isMasked = true)
          ∧ Registry.maskLine (m := BenchM LineRig) c 16 s'
              = .ok (.error (.invalidLine 16)) s' := by
  have hready : wiring.ready (serving 0x39) := rfl
  obtain ⟨a, s', hprobe, hpins, -, hnine, -⟩ := exists_probe_rerouted
  have hready' : wiring.ready s' := (probe_eq_ok maps_pure hready hprobe).2.ready
  refine ⟨⟨maps_pure, hready⟩, a, s', hprobe, hready', ?_⟩
  intro c
  have hbase : c.irqBase = 0x30 :=
    (by decide +kernel : (Config.ofCommandLine (some "irq.pic_master=0x30")).masterBase = 0x30)
  have hcount : c.lines = 16 := by
    unfold ApicController.lines
    rw [hbase, show c.ioApic.pins = 4 from hpins]
    rfl
  have hanswers (irq : UInt8) := registry_answers maps_pure hready hprobe localApic
    (some "irq.pic_master=0x30") irq hready'
  refine ⟨?_, ?_, ?_⟩
  · obtain ⟨-, hunmask⟩ := hanswers 9
    obtain ⟨reply, r', s₂, hrun, -, hanswered, -⟩ := hunmask (Registry.empty : Registry LineCase)
    obtain rfl := hanswered.accepted.mpr (by rw [hcount]; decide)
    obtain ⟨hmasked, hvector⟩ := (hanswered.served rfl 1 hnine).1
    exact ⟨r', s₂, hrun, hmasked, hvector.trans (by rw [hbase]; rfl)⟩
  · obtain ⟨⟨reply, s₂, hrun, -, hanswered⟩, -⟩ := hanswers 9
    obtain rfl := hanswered.accepted.mpr (by rw [hcount]; decide)
    exact ⟨s₂, hrun, (hanswered.served rfl 1 hnine).1⟩
  · obtain ⟨⟨reply, s₂, hrun, -, hanswered⟩, -⟩ := hanswers 16
    cases reply with
    | ok u =>
      have hlt : (16 : UInt8).toNat < 16 := hcount ▸ hanswered.accepted.mp rfl
      exact absurd hlt (by decide)
    | error e =>
      obtain ⟨rfl, rfl⟩ := hanswered.refused e rfl
      exact hrun

/-- **A line that nothing delivers is unmasked all the same**: interrupt 5 of this machine arrives
elsewhere, and the registry accepts to mask its line and to unmask it. All pins stay masked, and the
report of an unclaimed delivery on the line is taken back. -/
theorem unmaskLine_without_pin :
    ∃ a s', IoApic.probe (m := BenchM LineRig) ProbeRig.rerouted 5
        (fun _ => pure (.ok windowSocket)) (serving 0x39) = .ok (.ok a) s'
      ∧ a.pinOf (a.gsiOf 5) = .error (.gsiOutOfRange 5)
      ∧ let c : ApicController (Socket LineRig RegisterPage) (Socket LineRig SelectWindow) :=
          { localApic, ioApic := a, irqBase := (Config.ofCommandLine none).masterBase }
        let r : Registry LineCase := Registry.empty.countUnhandled 5
        (∃ s₂, Registry.maskLine (m := BenchM LineRig) c 5 s' = .ok (.ok ()) s₂)
          ∧ r.isReported 5 = true
          ∧ ∃ r' s₂, r.unmaskLine (m := BenchM LineRig) c 5 s' = .ok (.ok (), r') s₂
            ∧ (∀ pin, pin < a.pins → (wiring.registers s₂).entry pin = .masked)
            ∧ r'.isReported 5 = false := by
  have hready : wiring.ready (serving 0x39) := rfl
  obtain ⟨a, s', hprobe, hpins, -, -, hfive⟩ := exists_probe_rerouted
  obtain ⟨⟨info, ha⟩, hruns⟩ := probe_eq_ok maps_pure hready hprobe
  have hwired : a.IsWired wiring := ha ▸ isWired_probed _ info 5 _
  refine ⟨a, s', hprobe, hfive, ?_⟩
  intro c r
  have hbase : c.irqBase = 0x20 :=
    (by decide +kernel : (Config.ofCommandLine none).masterBase = 0x20)
  have hcount : (5 : UInt8).toNat < c.lines := by
    unfold ApicController.lines
    rw [hbase, show c.ioApic.pins = 4 from hpins]
    decide
  obtain ⟨s₂, hmask, -⟩ := c.call_settles hwired hruns.ready (.mask 5)
  obtain ⟨s₃, hunmask, -, hsettles⟩ := c.call_settles hwired hruns.ready (.unmask 5)
  -- line 5 lies below the base of this controller, so its accepted unmasking changes no register
  have hregisters := ((hsettles.answered hcount).unserved rfl _ hfive).2
  refine ⟨⟨s₂, ?_⟩, by decide +kernel, r.rearm 5, s₃, ?_, fun pin hpin => ?_,
    r.isReported_rearm 5⟩
  · rw [c.registry_maskLine hcount]
    exact bind_of_ok hmask
  · rw [c.registry_unmaskLine r (by rw [hbase]; decide) hcount]
    exact bind_of_ok hunmask
  · have hpin' : pin.toNat
        < (pinsOfVersion (wiring.registers (serving 0x39) versionRegister)).toNat := by
      rw [ha, pins_probed] at hpin
      exact hpin
    rw [hregisters, hruns.registers, setUpAccesses, RegisterFile.after_read,
      entry_after_maskWrites_zero _ (pinsOfVersion_bounds _).2 hpin']

end Sim.LineRig

end Interrupts
