import Mathlib.Data.List.Induction
import Mathlib.Logic.Function.Basic
import Interrupts.Proofs.LocalApic.LineCalls
import Interrupts.Proofs.Pic.Delivery
import Interrupts.Sim.Ports

/-!
# What the masks of the 8259 pair say of the calls so far

Masking a line and unmasking it reads a data port and writes it back with one bit changed, and
unmasking a line of the slave does the same to the cascade afterwards. So a call `decides` about one
line, or about two, and leaves the bits of the others alone (`bit_after`), and after any calls the
bit of a line is what the last call that decided about it said (`bit_afterAll`). `MaskPorts` are two
data ports that give back what was last written to them; there the calls do to the masks what is
said here (`calls_masks`).
-/

namespace Interrupts

/-! ## What a call says about which lines -/

namespace LineCall

/-- The call masks its line. -/
def isMask : LineCall → Bool
  | mask _ => true
  | unmask _ => false

/-- The call unmasks a line of the slave. -/
def opensSlave : LineCall → Bool
  | mask _ => false
  | unmask l => 8 ≤ l && l < 16

/-- **The call decides about a line**: one for the line itself, and about the cascade one that
unmasks a line of the slave as well. -/
def decides (l : UInt8) (k : LineCall) : Bool :=
  k.line = l || (l = Pic.cascadeLine && k.opensSlave)

/-- **What the last of some calls says**, or what was so before if there is none. -/
def lastSays (ks : List LineCall) (before : Bool) : Bool :=
  (ks.getLast?.map isMask).getD before

/-- A call at the end of the list decides if it is one that counts, and otherwise what was said
before stands. -/
theorem lastSays_filter_concat (p : LineCall → Bool) (ks : List LineCall) (k : LineCall)
    (before : Bool) :
    lastSays ((ks ++ [k]).filter p) before
      = if p k then k.isMask else lastSays (ks.filter p) before := by
  unfold lastSays
  rw [getLast?_filter_concat]
  split <;> rfl

end LineCall

namespace Pic

/-! ## Masks as bits -/

/-- **What the data ports hold.** -/
abbrev Masks := UInt16 → UInt8

/-- A chip's mask with the bit of one of its lines set or cleared. -/
def withLine (mask bit : UInt8) (masked : Bool) : UInt8 :=
  if masked then mask ||| ((1 : UInt8) <<< bit) else mask &&& ~~~((1 : UInt8) <<< bit)

/-- **Changing the bit of a line changes no other.** -/
theorem testBit_withLine (mask : UInt8) {bit : UInt8} (hbit : bit.toNat < 8) (masked : Bool)
    {i : Nat} (hi : i < 8) : (withLine mask bit masked).toNat.testBit i
      = if i = bit.toNat then masked else mask.toNat.testBit i := by
  have hline : ((1 : UInt8) <<< bit).toNat = 2 ^ bit.toNat := by
    rw [UInt8.toNat_shiftLeft, Nat.mod_eq_of_lt hbit, show (1 : UInt8).toNat = 1 from rfl,
      Nat.one_shiftLeft, Nat.mod_eq_of_lt (Nat.pow_lt_pow_right Nat.one_lt_two hbit)]
  cases masked with
  | true =>
    rw [withLine, if_pos rfl, UInt8.toNat_or, hline]
    exact testBit_or_two_pow mask.toNat bit.toNat i
  | false =>
    rw [withLine, if_neg Bool.false_ne_true, UInt8.toNat_and, UInt8.toNat_not, hline,
      show UInt8.size = 2 ^ 8 from rfl, testBit_and_not_two_pow hbit, decide_eq_true hi,
      Bool.and_true]

variable {l i : UInt8}

/-- The bit of a line is one of the eight of its chip. -/
theorem maskPlace_lt (hl : l < 16) : (maskPlace l).2.toNat < 8 := by
  have hl : l.toNat < 16 := hl
  unfold maskPlace
  by_cases hchip : l < 8
  · rw [if_pos hchip]
    exact hchip
  · have hle : (8 : UInt8) ≤ l := UInt8.not_lt.mp hchip
    have height : (8 : UInt8).toNat = 8 := rfl
    rw [if_neg hchip]
    dsimp only
    rw [UInt8.toNat_sub_of_le _ _ hle]
    omega

/-- No two lines have their bits in one place. -/
theorem maskPlace_injective (hport : (maskPlace i).1 = (maskPlace l).1)
    (hbit : (maskPlace i).2.toNat = (maskPlace l).2.toNat) : i = l := by
  have hports : masterData ≠ slaveData := by decide
  have hbit : (maskPlace i).2 = (maskPlace l).2 := UInt8.toNat_inj.mp hbit
  unfold maskPlace at hport hbit
  split at hport <;> split at hport
  · rwa [if_pos ‹_›, if_pos ‹_›] at hbit
  · exact absurd hport hports
  · exact absurd hport.symm hports
  · rw [if_neg ‹_›, if_neg ‹_›] at hbit
    calc i = i - 8 + 8 := (UInt8.sub_add_cancel i 8).symm
      _ = l - 8 + 8 := congrArg (· + 8) hbit
      _ = l := UInt8.sub_add_cancel l 8

/-- Every line has its mask bit in one of the two mask registers. -/
theorem maskPlace_cases (l : UInt8) :
    (maskPlace l).1 = masterData ∨ (maskPlace l).1 = slaveData := by
  unfold maskPlace
  split
  · exact .inl rfl
  · exact .inr rfl

namespace Masks

/-- The bit of a line. -/
def bit (f : Masks) (l : UInt8) : Bool :=
  (f (maskPlace l).1).toNat.testBit (maskPlace l).2.toNat

/-- Set or clear the bit of a line. -/
def set (f : Masks) (l : UInt8) (masked : Bool) : Masks :=
  Function.update f (maskPlace l).1 (withLine (f (maskPlace l).1) (maskPlace l).2 masked)

variable (f : Masks)

/-- **Sixteen bits, none in the way of another.** -/
theorem bit_set (hl : l < 16) (hi : i < 16) (masked : Bool) :
    (f.set l masked).bit i = if i = l then masked else f.bit i := by
  unfold bit set
  by_cases hport : (maskPlace i).1 = (maskPlace l).1
  · rw [hport, Function.update_self, testBit_withLine _ (maskPlace_lt hl) _ (maskPlace_lt hi)]
    by_cases h : i = l
    · rw [if_pos h, if_pos (congrArg (fun l => (maskPlace l).2.toNat) h)]
    · rw [if_neg h, if_neg fun hbit => h (maskPlace_injective hport hbit)]
  · rw [Function.update_of_ne hport, if_neg fun h => hport (congrArg (fun l => (maskPlace l).1) h)]

/-! ## Calls -/

/-- **What a call makes of the masks.** -/
def after (f : Masks) : LineCall → Masks
  | .mask l => if l < 16 then f.set l true else f
  | .unmask l =>
    if l < 16 then
      if 8 ≤ l then (f.set l false).set cascadeLine false else f.set l false
    else f

/-- What calls in turn make of them. -/
def afterAll (f : Masks) (ks : List LineCall) : Masks :=
  ks.foldl after f

open LineCall

/-- **A call changes the bits that it decides about**, and no other. -/
theorem bit_after (hi : i < 16) (k : LineCall) :
    (f.after k).bit i = if k.decides i then k.isMask else f.bit i := by
  have hcascade : cascadeLine < 16 := by decide
  cases k with
  | mask l =>
    have hdecides : (mask l).decides i = true ↔ i = l := by grind [decides, line, opensSlave]
    rw [after, if_congr hdecides rfl rfl]
    by_cases hl : l < 16
    · rw [if_pos hl, bit_set f hl hi]
      rfl
    · rw [if_neg hl, if_neg fun (h : i = l) => hl (h ▸ hi)]
  | unmask l =>
    have hdecides : (unmask l).decides i = true ↔ i = l ∨ i = cascadeLine ∧ 8 ≤ l ∧ l < 16 := by
      grind [decides, line, opensSlave]
    rw [after, if_congr hdecides rfl rfl]
    by_cases hl : l < 16
    · rw [if_pos hl]
      by_cases hslave : 8 ≤ l
      · rw [if_pos hslave, bit_set _ hcascade hi, bit_set f hl hi]
        grind [isMask]
      · rw [if_neg hslave, bit_set f hl hi]
        grind [isMask]
    · rw [if_neg hl, if_neg]
      grind

/-- **The bit of a line is what the last call said that decided about it.** -/
theorem bit_afterAll (hi : i < 16) (ks : List LineCall) :
    (f.afterAll ks).bit i = lastSays (ks.filter (decides i)) (f.bit i) := by
  -- The last call is the last to change the masks, so the induction adds calls at the end.
  induction ks using List.reverseRecOn with
  | nil => rfl
  | append_singleton ks k ih =>
    rw [afterAll, List.foldl_concat, ← afterAll, bit_after _ hi, lastSays_filter_concat, ih]

end Masks

/-- **Two data ports that give back what was last written to them.** -/
structure MaskPorts {P : Type} (σ : Type) [PortBus P (EStateM Stop σ)] (ports : P) where
  /-- The states in which the ports can be used. -/
  ready : σ → Prop
  /-- What the two registers hold. -/
  masks : σ → Masks
  /-- A read shows what the register holds, and changes nothing. -/
  read : ∀ {s port}, port = masterData ∨ port = slaveData → ready s →
    ∃ s', PortBus.read8 (m := EStateM Stop σ) ports port s = .ok (masks s port) s'
      ∧ ready s' ∧ masks s' = masks s
  /-- A write changes the register it goes to, and not the other one. -/
  write : ∀ {s port} (value : UInt8), port = masterData ∨ port = slaveData → ready s →
    ∃ s', PortBus.write8 (m := EStateM Stop σ) ports port value s = .ok () s'
      ∧ ready s' ∧ masks s' = Function.update (masks s) port value

section Calls

variable {P : Type} {m : Type → Type} [Monad m] [PortBus P m] (p : Pic P)

/-- Make a call for a line. -/
def call : LineCall → m Unit
  | .mask l => p.maskLine l
  | .unmask l => p.unmaskLine l

/-- Make calls one after the other. -/
def calls (ks : List LineCall) : m Unit :=
  forM ks p.call

/-- Read the port of a line and write it back with the bit of the line changed. -/
def update (l : UInt8) (masked : Bool) : m Unit := do
  let old ← PortBus.read8 p.ports (maskPlace l).1
  PortBus.write8 p.ports (maskPlace l).1 (withLine old (maskPlace l).2 masked)

variable {l : UInt8}

theorem call_mask (hl : l < 16) : p.call (m := m) (.mask l) = p.update l true :=
  if_pos (show l.toNat < lines from hl)

/-- Unmasking updates the bit of the line, and for a line of the slave the bit of the cascade too.
-/
theorem call_unmask [LawfulMonad m] (hl : l < 16) : p.call (m := m) (.unmask l) = (do
    p.update l false
    if 8 ≤ l then p.update cascadeLine false) := by
  refine (if_pos (show l.toNat < lines from hl)).trans ?_
  unfold update
  rw [bind_assoc]
  rfl

/-- **A call for a line that does not exist does nothing at all.** -/
theorem call_of_le {k : LineCall} (hk : 16 ≤ k.line) : p.call (m := m) k = pure () := by
  have hlines : ¬k.line.toNat < lines := Nat.not_lt_of_le (UInt8.le_iff_toNat_le.mp hk)
  cases k with
  | mask l => exact if_neg hlines
  | unmask l => exact if_neg hlines

end Calls

namespace MaskPorts

variable {P σ : Type} [PortBus P (EStateM Stop σ)] {p : Pic P} (h : MaskPorts σ p.ports)
  {s : σ} {l : UInt8}

/-- One update reads a mask register and writes it back with the bit of the line set or cleared. -/
theorem update_masks (hs : h.ready s) (l : UInt8) (masked : Bool) :
    ∃ s', p.update (m := EStateM Stop σ) l masked s = .ok () s' ∧ h.ready s'
      ∧ h.masks s' = (h.masks s).set l masked := by
  have hport := maskPlace_cases l
  obtain ⟨s₁, hread, hs₁, hmasks₁⟩ := h.read hport hs
  obtain ⟨s', hwrite, hs', hmasks'⟩ :=
    h.write (withLine (h.masks s (maskPlace l).1) (maskPlace l).2 masked) hport hs₁
  exact ⟨s', (bind_of_ok hread).trans hwrite, hs', by rw [hmasks', hmasks₁, Masks.set]⟩

/-- **A call changes the masks as it should.** -/
theorem call_masks (hs : h.ready s) (k : LineCall) :
    ∃ s', p.call (m := EStateM Stop σ) k s = .ok () s' ∧ h.ready s'
      ∧ h.masks s' = (h.masks s).after k := by
  by_cases hk : k.line < 16
  · cases k with
    | mask l =>
      have hk : l < 16 := hk
      rw [call_mask p hk, show (h.masks s).after (.mask l) = _ from if_pos hk]
      exact h.update_masks hs l true
    | unmask l =>
      have hk : l < 16 := hk
      obtain ⟨s₁, hupdate, hs₁, hmasks₁⟩ := h.update_masks hs l false
      rw [call_unmask p hk, bind_of_ok hupdate]
      rw [show (h.masks s).after (.unmask l) = _ from if_pos hk, ← hmasks₁]
      by_cases hslave : 8 ≤ l
      · rw [if_pos hslave, if_pos hslave]
        exact h.update_masks hs₁ cascadeLine false
      · rw [if_neg hslave, if_neg hslave]
        exact ⟨s₁, rfl, hs₁, rfl⟩
  -- lines from sixteen on are in neither register, and the call does nothing at all
  · have hnone : (h.masks s).after k = h.masks s := by
      cases k with
      | mask l => exact if_neg hk
      | unmask l => exact if_neg hk
    exact ⟨s, by rw [call_of_le p (UInt8.not_lt.mp hk)]; rfl, hs, hnone.symm⟩

/-- **And so do calls in turn.** -/
theorem calls_masks (hs : h.ready s) (ks : List LineCall) :
    ∃ s', p.calls (m := EStateM Stop σ) ks s = .ok () s' ∧ h.ready s'
      ∧ h.masks s' = (h.masks s).afterAll ks := by
  induction ks generalizing s with
  | nil => exact ⟨s, rfl, hs, rfl⟩
  | cons k ks ih =>
    obtain ⟨s₁, hcall, hs₁, hmasks₁⟩ := h.call_masks hs k
    obtain ⟨s', hcalls, hs', hmasks'⟩ := ih hs₁
    refine ⟨s', ?_, hs', by rw [hmasks', hmasks₁]; rfl⟩
    unfold calls at hcalls ⊢
    rw [List.forM_cons]
    exact (bind_of_ok hcall).trans hcalls

/-- What is read of both masks are the bits of the lines. -/
theorem masks_reads (hs : h.ready s) :
    ∃ bits s', p.masks (m := EStateM Stop σ) s = .ok bits s'
      ∧ ∀ l : UInt8, l < 16 → bits.toNat.testBit l.toNat = (h.masks s).bit l := by
  obtain ⟨s₁, hslave, hs₁, hmasks₁⟩ := h.read (.inr rfl) hs
  obtain ⟨s', hmaster, -, -⟩ := h.read (.inl rfl) hs₁
  refine ⟨_, s', (bind_of_ok hslave).trans ((bind_of_ok hmaster).trans rfl), fun l hl => ?_⟩
  rw [hmasks₁, testBit_pair]
  unfold Masks.bit maskPlace
  by_cases hchip : l < 8
  · rw [if_pos hchip, if_pos (show l.toNat < 8 from hchip)]
  · have hle : (8 : UInt8) ≤ l := UInt8.not_lt.mp hchip
    rw [if_neg hchip, if_neg (show ¬l.toNat < 8 from hchip)]
    dsimp only
    rw [UInt8.toNat_sub_of_le _ _ hle]
    rfl

end MaskPorts

open LineCall

/-- **The masks tell the calls so far.** After any calls the bit of a line is set just when the last
call for the line masked it, or when it was set before and there was no such call. The cascade
follows the last call that was for it or unmasked a line of the slave. This is what is read of the
masks, and unmasking a line of the slave now leaves neither its bit nor the cascade's set. Calls for
lines that do not exist reach no port. -/
theorem masks_tell_calls {P σ : Type} [PortBus P (EStateM Stop σ)] {p : Pic P}
    (h : MaskPorts σ p.ports) {s : σ} (hs : h.ready s) (ks : List LineCall) :
    (∃ s', p.calls (m := EStateM Stop σ) ks s = .ok () s' ∧ h.ready s'
        ∧ (∀ l : UInt8, l < 16 → l ≠ cascadeLine → (h.masks s').bit l
          = lastSays (ks.filter fun k => k.line = l) ((h.masks s).bit l))
        ∧ (h.masks s').bit cascadeLine
          = lastSays (ks.filter fun k => k.line = cascadeLine || k.opensSlave)
            ((h.masks s).bit cascadeLine)
        ∧ (∃ bits s'', p.masks (m := EStateM Stop σ) s' = .ok bits s''
          ∧ ∀ l : UInt8, l < 16 → bits.toNat.testBit l.toNat = (h.masks s').bit l)
        ∧ ∀ l : UInt8, 8 ≤ l → l < 16 →
          ∃ s'', p.unmaskLine (m := EStateM Stop σ) l s' = .ok () s'' ∧ h.ready s''
            ∧ (h.masks s'').bit l = false ∧ (h.masks s'').bit cascadeLine = false)
      ∧ ∀ (m : Type → Type) [Monad m] [PortBus P m] (l : UInt8), 16 ≤ l →
        p.maskLine (m := m) l = pure () ∧ p.unmaskLine (m := m) l = pure () := by
  have hcascade : cascadeLine < 16 := by decide
  obtain ⟨s', hcalls, hs', hmasks'⟩ := h.calls_masks hs ks
  refine ⟨⟨s', hcalls, hs', fun l hl hne => ?_, ?_, h.masks_reads hs', fun l hslave hl => ?_⟩,
    fun m _ _ l hl => ⟨p.call_of_le (k := .mask l) hl, p.call_of_le (k := .unmask l) hl⟩⟩
  -- an ordinary line is decided by its own calls, the cascade by the unmaskings of the slave as
  -- well
  · have hline : decides l = fun k => decide (k.line = l) := by
      funext k
      rw [decides, decide_eq_false hne, Bool.false_and, Bool.or_false]
    rw [hmasks', Masks.bit_afterAll _ hl, hline]
  · have hline : decides cascadeLine = fun k => k.line = cascadeLine || k.opensSlave := by
      funext k
      rw [decides, decide_eq_true rfl, Bool.true_and]
    rw [hmasks', Masks.bit_afterAll _ hcascade, hline]
  · obtain ⟨s'', hcall, hs'', hmasks''⟩ := h.call_masks hs' (.unmask l)
    have hslave' : (LineCall.unmask l).opensSlave = true := by
      rw [opensSlave, decide_eq_true hslave, decide_eq_true hl]
      rfl
    refine ⟨s'', hcall, hs'', ?_, ?_⟩
    · rw [hmasks'', Masks.bit_after _ hl, if_pos]
      · rfl
      · rw [decides, line, decide_eq_true rfl, Bool.true_or]
    · rw [hmasks'', Masks.bit_after _ hcascade, if_pos]
      · rfl
      · rw [decides, hslave', decide_eq_true rfl, Bool.true_and, Bool.or_true]

end Pic

/-! ## A machine of ports -/

namespace Sim

/-- The other keys keep their values. -/
theorem lookup_putKey {α β : Type} [DecidableEq α] (key key' : α) (value : β)
    (ps : List (α × β)) :
    (putKey key value ps).lookup key' = if key' = key then some value else ps.lookup key' := by
  induction ps with
  | nil => grind [putKey]
  | cons p ps ih => grind [putKey]

namespace PortMachine

open Pic

/-- A port that is stored to keeps this value, and the others theirs. -/
theorem last_store (m : PortMachine) (port : UInt16) (value : UInt8) :
    (m.store port value).last = Function.update m.last port value := by
  funext port'
  unfold last store
  rw [lookup_putKey]
  by_cases h : port' = port
  · rw [if_pos h, h, Function.update_self]
    rfl
  · rw [if_neg h, Function.update_of_ne h]

/-- **The ports of the chips remember their masks.** -/
def maskPorts : MaskPorts (Bench PortMachine)
    (Socket.whole : Socket PortMachine PortMachine) where
  ready _ := True
  masks b := b.device.last
  read := by
    rintro b port (rfl | rfl) -
    · exact ⟨_, rfl, trivial, rfl⟩
    · exact ⟨_, rfl, trivial, rfl⟩
  write := by
    rintro b port value (rfl | rfl) -
    · exact ⟨_, rfl, trivial, last_store (b.device.record _) masterData value⟩
    · exact ⟨_, rfl, trivial, last_store (b.device.record _) slaveData value⟩

/-- The pair of this machine. -/
def pair : Pic (Socket PortMachine PortMachine) where
  ports := Socket.whole

/-- With every line masked, unmasking line 10 opens the cascade, and masking it again leaves the
cascade open; there is no line 16 to mask. -/
theorem masks_tell_calls_ten :
    let b : Bench PortMachine :=
      { device := { stored := [(masterData, 0xff), (slaveData, 0xff)] } }
    maskPorts.ready b
      ∧ ∃ b', pair.calls (m := BenchM PortMachine) [.unmask 10, .mask 10, .mask 16] b = .ok () b'
        ∧ (maskPorts.masks b').bit 10 = true
        ∧ (maskPorts.masks b').bit 3 = true
        ∧ (maskPorts.masks b').bit 2 = false
        ∧ ∃ b'', pair.unmaskLine (m := BenchM PortMachine) 12 b' = .ok () b''
          ∧ (maskPorts.masks b'').bit 12 = false := by
  intro b
  refine ⟨trivial, ?_⟩
  obtain ⟨⟨b', hcalls, -, hlines, hcascade, -, hopens⟩, -⟩ :=
    masks_tell_calls (p := pair) maskPorts (s := b) trivial [.unmask 10, .mask 10, .mask 16]
  obtain ⟨b'', hunmask, -, hopen, -⟩ := hopens 12 (by decide) (by decide)
  exact ⟨b', hcalls, (hlines 10 (by decide) (by decide)).trans rfl,
    (hlines 3 (by decide) (by decide)).trans (by decide), hcascade.trans rfl, b'', hunmask, hopen⟩

end PortMachine

end Sim

end Interrupts
