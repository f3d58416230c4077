import Interrupts.Proofs.Pic.Chips
import Interrupts.Proofs.Pic.Delivery
import Interrupts.Sim.Bench

/-!
# Programming the 8259 pair anew

The chips can be programmed at any time, in the middle of another initialisation too, and what a
byte on a data port means depends on the bytes before it. `ChipPorts` are ports with a pair of chips
behind them; a computation on these ports `Leads` the chips from one state to another, whatever else
it does. The sequence that programs the pair reads both masks first, because the chips forget them,
and gives them back when the chips are at work again (`leads_remap`).

After that the pair remembers the first vectors that its chips have. A vector that a chip delivers
then leads back to a line that the chips deliver on it, and to the very line that was delivered if
the chips have different vectors. The last vector of all is the exception: it is the spurious one,
and leads to no line, although the last line of a chip may be delivered on it.
-/

namespace Interrupts

/-! ## Vectors and masks of the chips -/

namespace Chip

/-- **The vector on which a chip delivers one of its eight lines.** -/
def vector (c : Chip) (line : UInt8) : UInt8 :=
  c.base ||| line

/-- The low three bits of the first vector are free for the line. -/
theorem toNat_or_of_dvd {base line : UInt8} (hbase : 8 ∣ base.toNat) (hline : line.toNat < 8) :
    (base ||| line).toNat = base.toNat + line.toNat := by
  obtain ⟨k, hk⟩ := hbase
  rw [UInt8.toNat_or, hk]
  exact (Nat.two_pow_add_eq_or_of_lt (i := 3) hline k).symm

end Chip

namespace Chips

/-- The mask that a data port shows. -/
def maskAt (c : Chips) (port : UInt16) : UInt8 :=
  if port = Pic.masterData then c.master.mask else c.slave.mask

/-- **The vector on which the chips deliver a line.** -/
def vector (c : Chips) (l : UInt8) : UInt8 :=
  if l < 8 then c.master.vector l else c.slave.vector (l - 8)

end Chips

/-! ## Leading the chips -/

/-- **Ports with the pair of chips behind them.** The data ports show the masks, and the chips take
in whatever is written to any port. -/
structure ChipPorts {P : Type} (σ : Type) [PortBus P (EStateM Stop σ)] [Logger (EStateM Stop σ)]
    (ports : P) where
  /-- The state of the two chips. -/
  chips : σ → Chips
  /-- A data port shows the mask of its chip. -/
  read : ∀ (s : σ) {port : UInt16}, port = Pic.masterData ∨ port = Pic.slaveData →
    ∃ s', PortBus.read8 (m := EStateM Stop σ) ports port s = .ok ((chips s).maskAt port) s'
      ∧ chips s' = chips s
  /-- A byte is a command or a word of the initialisation, as the chip has it. -/
  write : ∀ (s : σ) (port : UInt16) (value : UInt8),
    ∃ s', PortBus.write8 (m := EStateM Stop σ) ports port value s = .ok () s'
      ∧ chips s' = (chips s).step (.out port value)
  /-- Logging is nothing to the chips. -/
  logged : ∀ (s : σ) (level : Level) (text : String),
    ∃ s', Logger.log (m := EStateM Stop σ) level text s = .ok () s' ∧ chips s' = chips s

namespace ChipPorts

variable {P σ α β : Type} [PortBus P (EStateM Stop σ)] [Logger (EStateM Stop σ)] {ports : P}

/-- **A computation leads the chips from one state to another**, and returns. -/
def Leads (h : ChipPorts σ ports) (x : EStateM Stop σ α) (c : Chips) (a : α) (c' : Chips) : Prop :=
  ∀ s, h.chips s = c → ∃ s', x s = .ok a s' ∧ h.chips s' = c'

section

variable {h : ChipPorts σ ports} {x : EStateM Stop σ α} {f : α → EStateM Stop σ β} {a : α} {b : β}
  {c c' c'' : Chips} {port : UInt16}

/-- Two programs in a row lead the chips through the state in between. -/
theorem Leads.bind (hx : h.Leads x c a c') (hf : h.Leads (f a) c' b c'') :
    h.Leads (x >>= f) c b c'' := by
  intro s hs
  obtain ⟨s₁, hrun, hs₁⟩ := hx s hs
  obtain ⟨s', hrun', hs'⟩ := hf s₁ hs₁
  exact ⟨s', (bind_of_ok hrun).trans hrun', hs'⟩

theorem leads_pure : h.Leads (pure a) c a c :=
  fun s hs => ⟨s, rfl, hs⟩

/-- Reading a mask register leaves the chips as they are. -/
theorem leads_read (hport : port = Pic.masterData ∨ port = Pic.slaveData) :
    h.Leads (PortBus.read8 ports port) c (c.maskAt port) c := by
  rintro s rfl
  exact h.read s hport

/-- A byte written to a port is one step of the chips. -/
theorem leads_write (value : UInt8) :
    h.Leads (PortBus.write8 ports port value) c () (c.step (.out port value)) := by
  rintro s rfl
  exact h.write s port value

theorem leads_log (level : Level) (text : String) : h.Leads (log level text) c () c := by
  rintro s rfl
  exact h.logged s level text

end

variable {p : Pic P} (h : ChipPorts σ p.ports) (c : Chips) {master slave : UInt8}

/-- A command, and a pause, which is none of the chips' business. -/
theorem leads_command (port : UInt16) (value : UInt8) :
    h.Leads (p.command port value) c () (c.step (.out port value)) :=
  (leads_write value).bind (leads_write 0)

/-- **The sequence that programs both chips.** -/
theorem leads_remap : h.Leads (p.remap master slave) c (p.setOffsets master slave)
    (c.after (Pic.programming master slave c.master.mask c.slave.mask)) :=
  (leads_read (.inl rfl)).bind <| (leads_read (.inr rfl)).bind <|
    (h.leads_command _ _ _).bind <| (h.leads_command _ _ _).bind <|
    (h.leads_command _ _ _).bind <| (h.leads_command _ _ _).bind <|
    (h.leads_command _ _ _).bind <| (h.leads_command _ _ _).bind <|
    (h.leads_command _ _ _).bind <| (h.leads_command _ _ _).bind <|
    (leads_write _).bind <| (leads_write _).bind <| (leads_log _ _).bind leads_pure

theorem leads_writeMasks (mask : UInt8) :
    h.Leads (p.writeMasks mask) c () (c.after (Pic.masking mask)) :=
  (leads_write mask).bind (leads_write mask)

section Programs

variable (hmaster : 8 ∣ master.toNat) (hslave : 8 ∣ slave.toNat)

include hmaster hslave

/-- **The chips are at work afterwards**, with the masks that they had. -/
theorem leads_remap_atWork : h.Leads (p.remap master slave) c (p.setOffsets master slave)
    (.atWork master slave c.master.mask c.slave.mask) := by
  rw [← Chips.after_programming c hmaster hslave]
  exact h.leads_remap c

/-- Enabling programs both chips for the bases and opens every line. -/
theorem leads_enable : h.Leads (p.setOffsets master slave).enable c (p.setOffsets master slave)
    (.atWork master slave 0x00 0x00) :=
  (leads_remap_atWork (p := p.setOffsets master slave) h c hmaster hslave).bind <|
    (leads_writeMasks (p := p.setOffsets master slave) h _ 0x00).bind leads_pure

/-- Disabling programs both chips for the bases and masks every line. -/
theorem leads_disable : h.Leads (p.setOffsets master slave).disable c (p.setOffsets master slave)
    (.atWork master slave 0xff 0xff) :=
  (leads_remap_atWork (p := p.setOffsets master slave) h c hmaster hslave).bind <|
    (leads_writeMasks (p := p.setOffsets master slave) h _ 0xff).bind <|
    (leads_log _ _).bind leads_pure

end Programs

end ChipPorts

/-! ## What the pair knows of its chips -/

namespace Pic

variable {P : Type}

/-- **The pair knows the vectors of its chips.** It remembers their first vectors. A vector that they
deliver, other than the last one of all, leads back to a line that they deliver on it, and to the
very line if the chips have different vectors. -/
structure Knows (p : Pic P) (c : Chips) : Prop where
  /-- The pair remembers where the vectors of both chips begin. -/
  offsets : p.offsets = (c.master.base, c.slave.base)
  /-- A vector leads back to a line that has it. -/
  decodes : ∀ l : UInt8, l < 16 → c.vector l ≠ Vectors.spurious →
    ∃ l' : UInt8, p.lineForVector (c.vector l) = some l' ∧ l' < 16 ∧ c.vector l' = c.vector l
      ∧ (c.master.base ≠ c.slave.base → l' = l)

/-- The slave numbers its lines from 0. -/
theorem toNat_sub_eight {l : UInt8} (h : ¬l < 8) : (l - 8).toNat = l.toNat - 8 :=
  UInt8.toNat_sub_of_le _ _ (UInt8.not_lt.mp h)

/-- A vector that the master may deliver is taken for one of the master. -/
theorem lineForVector_of_master {p : Pic P} {i : UInt8} (hi : i.toNat < 8)
    (hv : (p.master ||| i).toNat = p.master.toNat + i.toNat)
    (hlast : (p.master ||| i).toNat ≠ 255) : p.lineForVector (p.master ||| i) = some i := by
  have hlt := (p.master ||| i).toNat_lt
  unfold lineForVector
  rw [if_pos (inRange_iff.mpr (by omega))]
  refine congrArg some (UInt8.toNat_inj.mp ?_)
  rw [UInt8.toNat_sub_of_le _ _ (UInt8.le_iff_toNat_le.mpr (by omega))]
  omega

variable {master slave : UInt8} (hmaster : 8 ∣ master.toNat) (hslave : 8 ∣ slave.toNat)

include hmaster hslave

/-- The chips deliver a line on the vector that the pair has for it. -/
theorem toNat_vector_atWork (p : Pic P) (masterMask slaveMask : UInt8) {l : UInt8} (hl : l < 16) :
    ((Chips.atWork master slave masterMask slaveMask).vector l).toNat
      = (p.setOffsets master slave).lineVector l := by
  have hlt : l.toNat < 16 := hl
  unfold Chips.vector lineVector
  by_cases hchip : l < 8
  · rw [if_pos hchip, if_pos (show l.toNat < 8 from hchip)]
    exact Chip.toNat_or_of_dvd hmaster hchip
  · have hsub := toNat_sub_eight hchip
    rw [if_neg hchip, if_neg (show ¬l.toNat < 8 from hchip), ← hsub]
    exact Chip.toNat_or_of_dvd hslave (by omega)

/-- **After programming, the pair knows the vectors of its chips.** -/
theorem knows_atWork (p : Pic P) (masterMask slaveMask : UInt8) :
    (p.setOffsets master slave).Knows (.atWork master slave masterMask slaveMask) := by
  refine ⟨rfl, fun l hl hspurious => ?_⟩
  have hlast : ((Chips.atWork master slave masterMask slaveMask).vector l).toNat ≠ 255 :=
    fun h => hspurious (UInt8.toNat_inj.mp h)
  by_cases hne : master = slave
  · -- Both chips have the same vectors, and the pair takes them for those of the master.
    subst hne
    obtain ⟨i, hi, hvector⟩ : ∃ i : UInt8, i < 8
        ∧ (Chips.atWork master master masterMask slaveMask).vector l = master ||| i := by
      by_cases hchip : l < 8
      · exact ⟨l, hchip, if_pos hchip⟩
      · have hsub := toNat_sub_eight hchip
        have hlt : l.toNat < 16 := hl
        exact ⟨l - 8, UInt8.lt_iff_toNat_lt.mpr (show (l - 8).toNat < 8 by omega), if_neg hchip⟩
    rw [hvector] at hlast ⊢
    refine ⟨i, ?_, Nat.lt_trans hi (by decide), if_pos hi, fun h => absurd rfl h⟩
    exact lineForVector_of_master (p := p.setOffsets master master) hi
      (Chip.toNat_or_of_dvd hmaster hi) hlast
  -- different multiples of eight are at least eight apart
  · have hapart : (p.setOffsets master slave).RangesApart := by
      have hne : master.toNat ≠ slave.toNat := fun h => hne (UInt8.toNat_inj.mp h)
      show master.toNat + 8 ≤ slave.toNat ∨ slave.toNat + 8 ≤ master.toNat
      omega
    exact ⟨l, lineForVector_lineVector hapart hl
      (toNat_vector_atWork hmaster hslave p masterMask slaveMask hl) hlast, hl, rfl, fun _ => rfl⟩

/-- **Programming the pair leaves chips that do as they are told**, whatever they were before and
wherever in an initialisation. Both are at work in the mode of this processor, the slave on line 2 of
the master, with the vectors that were meant and the masks that they had. To enable or to disable the
pair does the same with the vectors that were chosen, and then no line is masked, or every line is.
And each time the pair knows the vectors of its chips. -/
theorem chips_programmed {σ : Type} [PortBus P (EStateM Stop σ)] [Logger (EStateM Stop σ)]
    {p : Pic P} (h : ChipPorts σ p.ports) (s : σ) :
    let p' := p.setOffsets master slave
    (∃ s', p.remap (m := EStateM Stop σ) master slave s = .ok p' s'
        ∧ h.chips s'
          = .atWork master slave (h.chips s).master.mask (h.chips s).slave.mask
        ∧ p'.Knows (h.chips s'))
      ∧ (∃ s', p'.enable (m := EStateM Stop σ) s = .ok p' s'
        ∧ h.chips s' = .atWork master slave 0x00 0x00 ∧ p'.Knows (h.chips s'))
      ∧ ∃ s', p'.disable (m := EStateM Stop σ) s = .ok p' s'
        ∧ h.chips s' = .atWork master slave 0xff 0xff ∧ p'.Knows (h.chips s') := by
  have hknows := knows_atWork hmaster hslave p
  refine ⟨?_, ?_, ?_⟩
  · obtain ⟨s', hrun, hs'⟩ := h.leads_remap_atWork (h.chips s) hmaster hslave s rfl
    exact ⟨s', hrun, hs', hs' ▸ hknows _ _⟩
  · obtain ⟨s', hrun, hs'⟩ := h.leads_enable (h.chips s) hmaster hslave s rfl
    exact ⟨s', hrun, hs', hs' ▸ hknows _ _⟩
  · obtain ⟨s', hrun, hs'⟩ := h.leads_disable (h.chips s) hmaster hslave s rfl
    exact ⟨s', hrun, hs', hs' ▸ hknows _ _⟩

end Pic

/-! ## A pair of chips on the bench -/

namespace Sim

/-- Two chips and nothing else. -/
instance : PortDevice Chips where
  read port c := (c.maskAt port, c)
  write port value c := c.step (.out port value)

/-- **The chips of a bench.** -/
def chipPorts : ChipPorts (Bench Chips) (Socket.whole : Socket Chips Chips) where
  chips b := b.device
  read b _ _ := ⟨b, rfl, rfl⟩
  write _ _ _ := ⟨_, rfl, rfl⟩
  logged _ _ _ := ⟨_, rfl, rfl⟩

/-- Chips that nobody has finished programming: the master waits for its wiring, the slave for its
first vector. Their masks are odd ones. -/
def halfway : Chips where
  master := { stage := .wiring, base := 0x08, wiring := 0, mode := 0, mask := 0xa5 }
  slave := { stage := .vector, base := 0x70, wiring := 0, mode := 0, mask := 0x5a }

/-- The pair of these chips. -/
def chipPair : Pic (Socket Chips Chips) where
  ports := Socket.whole

/-- Programmed halfway through, the chips come to work with their masks, and line 9 leads back. -/
theorem chips_programmed_halfway :
    let b : Bench Chips := { device := halfway }
    let p' := chipPair.setOffsets 0x40 0x48
    (8 ∣ (0x40 : UInt8).toNat ∧ 8 ∣ (0x48 : UInt8).toNat)
      ∧ ∃ b', chipPair.remap (m := BenchM Chips) 0x40 0x48 b = .ok p' b'
        ∧ b'.device = .atWork 0x40 0x48 0xa5 0x5a ∧ p'.offsets = (0x40, 0x48)
        ∧ b'.device.vector 9 = 0x49 ∧ p'.lineForVector 0x49 = some 9 := by
  intro b p'
  have hmaster : 8 ∣ (0x40 : UInt8).toNat := by decide
  have hslave : 8 ∣ (0x48 : UInt8).toNat := by decide
  obtain ⟨⟨b', hrun, hchips, hknows⟩, -⟩ :=
    Pic.chips_programmed hmaster hslave (p := chipPair) chipPorts b
  have hchips : b'.device = .atWork 0x40 0x48 0xa5 0x5a := hchips
  have hknows : p'.Knows b'.device := hknows
  have hvector : b'.device.vector 9 = 0x49 := by
    rw [hchips]
    decide
  obtain ⟨l', hline, -, -, hsame⟩ := hknows.decodes 9 (by decide) (by rw [hvector]; decide)
  rw [hvector, hsame (by rw [hchips]; decide)] at hline
  exact ⟨⟨hmaster, hslave⟩, b', hrun, hchips, by rw [hknows.offsets, hchips]; rfl, hvector, hline⟩

/-- **The last line of a chip may be delivered and lead nowhere**: the master has the last eight
vectors of all, its line 7 is delivered on the last one, and the pair knows of no line there. -/
theorem lastLine_undecoded :
    let b : Bench Chips := { device := halfway }
    let p' := chipPair.setOffsets 0xf8 0x28
    (8 ∣ (0xf8 : UInt8).toNat ∧ 8 ∣ (0x28 : UInt8).toNat)
      ∧ (∃ b', chipPair.remap (m := BenchM Chips) 0xf8 0x28 b = .ok p' b'
        ∧ b'.device.master.base = 0xf8 ∧ b'.device.vector 7 = 0xff)
      ∧ p'.lineForVector 0xff = none := by
  intro b p'
  have hmaster : 8 ∣ (0xf8 : UInt8).toNat := by decide
  have hslave : 8 ∣ (0x28 : UInt8).toNat := by decide
  obtain ⟨b', hrun, hchips⟩ :=
    ChipPorts.leads_remap_atWork (p := chipPair) chipPorts halfway hmaster hslave b rfl
  have hchips : b'.device = .atWork 0xf8 0x28 0xa5 0x5a := hchips
  exact ⟨⟨hmaster, hslave⟩, ⟨b', hrun, by rw [hchips]; rfl, by rw [hchips]; decide⟩, by decide⟩

end Sim

end Interrupts
