import Interrupts.Proofs.Config.CommandLine
import Interrupts.Proofs.Kernel.Acknowledge

/-!
# Lines of the 8259 pair and their vectors

The chips deliver a line on the vector of its place behind the base of its chip. Whatever the
command line says about the bases, these vectors are vectors, and no two lines share one. A vector
that is not the spurious one is routed to the registry and leads back to its line; and when the
chips report no other line in service, the cascade left aside, this is the line that is served and
ended.

The slave reports on line 2 of the master, so a chip that has only this line in service has nothing
to serve, and nothing is ended.
-/

namespace Interrupts

/-! ## Vectors -/

namespace Config

variable {c : Config} {l l' : UInt8}

/-- **The vector on which the chips deliver a line**, as a number. -/
def picVector (c : Config) (l : UInt8) : Nat :=
  if l.toNat < 8 then c.masterBase.toNat + l.toNat else c.slaveBase.toNat + (l.toNat - 8)

/-- The vectors of the sixteen lines lie above the exceptions and within a byte. -/
theorem picVector_bounds (hc : c.IsSound) (hl : l < 16) :
    32 ≤ c.picVector l ∧ c.picVector l ≤ 0xff := by
  have hl : l.toNat < 16 := hl
  have hmaster := hc.masterBase
  have hslave := hc.slaveBase
  unfold IsVectorBase at hmaster hslave
  unfold picVector
  split <;> omega

/-- The two ranges are apart, so no two lines share a vector. -/
theorem picVector_injective (hc : c.IsSound) (hl : l < 16) (hl' : l' < 16)
    (h : c.picVector l' = c.picVector l) : l' = l := by
  have hl : l.toNat < 16 := hl
  have hl' : l'.toNat < 16 := hl'
  have hapart := hc.apart
  unfold RangesApart at hapart
  unfold picVector at h
  refine UInt8.toNat_inj.mp ?_
  split at h <;> split at h <;> omega

end Config

namespace Pic

section Lookup

variable {P : Type} {p : Pic P} {c : Config} {l v base : UInt8}

/-- The range check of one chip on numbers, with the spurious vector cut out of it. -/
theorem inRange_iff : inRange base v = true
    ↔ base.toNat ≤ v.toNat ∧ v.toNat < base.toNat + 8 ∧ v.toNat < 255 := by
  unfold inRange
  rw [Bool.and_eq_true, decide_eq_true_iff, decide_eq_true_iff, UInt8.le_iff_toNat_le]
  omega

/-- **The vector on which the pair delivers a line**, as a number. -/
def lineVector (p : Pic P) (l : UInt8) : Nat :=
  if l.toNat < 8 then p.master.toNat + l.toNat else p.slave.toNat + (l.toNat - 8)

/-- The two chips have no vector in common. -/
def RangesApart (p : Pic P) : Prop :=
  p.master.toNat + 8 ≤ p.slave.toNat ∨ p.slave.toNat + 8 ≤ p.master.toNat

/-- **A vector leads back to its line**, unless it is the last one of all. -/
theorem lineForVector_lineVector (hapart : p.RangesApart) (hl : l < 16)
    (hv : v.toNat = p.lineVector l) (hlast : v.toNat ≠ 255) : p.lineForVector v = some l := by
  have hl : l.toNat < 16 := hl
  have hlt := v.toNat_lt
  unfold RangesApart at hapart
  unfold lineVector at hv
  unfold lineForVector
  -- the master is asked first; a line of the slave is let through since the ranges are apart
  by_cases hchip : l.toNat < 8
  · rw [if_pos hchip] at hv
    rw [if_pos (inRange_iff.mpr (by omega))]
    refine congrArg some (UInt8.toNat_inj.mp ?_)
    rw [UInt8.toNat_sub_of_le _ _ (UInt8.le_iff_toNat_le.mpr (by omega))]
    omega
  · rw [if_neg hchip] at hv
    rw [if_neg fun h => absurd (inRange_iff.mp h) (by omega), if_pos (inRange_iff.mpr (by omega))]
    refine congrArg some (UInt8.toNat_inj.mp ?_)
    rw [UInt8.toNat_add, UInt8.toNat_sub_of_le _ _ (UInt8.le_iff_toNat_le.mpr (by omega))]
    have height : (8 : UInt8).toNat = 8 := rfl
    omega

/-- The vectors of a configuration lead back to their lines. -/
theorem lineForVector_picVector (hc : c.IsSound) (hl : l < 16)
    (hoffsets : p.offsets = (c.masterBase, c.slaveBase)) (hv : v.toNat = c.picVector l)
    (hspurious : v ≠ Vectors.spurious) : p.lineForVector v = some l := by
  obtain ⟨hmaster, hslave⟩ := Prod.mk.inj hoffsets
  have hapart := hc.apart
  unfold Config.RangesApart at hapart
  unfold Config.picVector at hv
  rw [← hmaster, ← hslave] at hapart hv
  exact lineForVector_lineVector hapart hl hv fun h => hspurious (UInt8.toNat_inj.mp h)

end Lookup

/-! ## Lines in service -/

section InService

variable {master slave l : UInt8} {set : UInt16} {i : Nat}

/-- **The chips report a line in service** with these two bytes. -/
def Reports (master slave : UInt8) (i : Nat) : Prop :=
  if i < 8 then master.toNat.testBit i = true else slave.toNat.testBit (i - 8) = true

/-- The lines of the two chips, the slave's in the high byte. -/
theorem testBit_pair (master slave : UInt8) (i : Nat) :
    (slave.toUInt16 <<< 8 ||| master.toUInt16).toNat.testBit i
      = if i < 8 then master.toNat.testBit i else slave.toNat.testBit (i - 8) := by
  have hshift : (slave.toUInt16 <<< 8).toNat = slave.toNat <<< 8 := by
    have := slave.toNat_lt
    rw [UInt16.toNat_shiftLeft, UInt8.toNat_toUInt16, show (8 : UInt16).toNat % 16 = 8 from rfl,
      Nat.shiftLeft_eq, Nat.mod_eq_of_lt (by omega)]
  rw [UInt16.toNat_or, hshift, UInt8.toNat_toUInt16, Nat.testBit_or, Nat.testBit_shiftLeft]
  by_cases hchip : i < 8
  · rw [if_pos hchip, decide_eq_false (Nat.not_le_of_lt hchip), Bool.false_and, Bool.false_or]
  · have hle : 8 ≤ i := Nat.le_of_not_lt hchip
    -- the byte of the master ends below the bits that the slave is shifted to
    have hmaster : master.toNat.testBit i = false :=
      Nat.testBit_lt_two_pow
        (Nat.lt_of_lt_of_le master.toNat_lt (Nat.pow_le_pow_right Nat.two_pos hle))
    rw [if_neg hchip, decide_eq_true hle, Bool.true_and, hmaster, Bool.or_false]

/-- What is left of the two bytes when the cascade is left aside. -/
theorem testBit_reported (master slave : UInt8) (hi : i < 16) :
    ((slave.toUInt16 <<< 8 ||| master.toUInt16)
        &&& ~~~((1 : UInt16) <<< cascadeLine.toUInt16)).toNat.testBit i = true
      ↔ i ≠ 2 ∧ Reports master slave i := by
  have hkept : ∀ i < 16,
      ((~~~((1 : UInt16) <<< cascadeLine.toUInt16)).toNat.testBit i = true ↔ i ≠ 2) := by decide
  rw [UInt16.toNat_and, Nat.testBit_and, Bool.and_eq_true, hkept i hi, and_comm, testBit_pair]
  unfold Reports
  split <;> rfl

/-- The lowest line of a set is a line of the set below which there is none. -/
theorem lowestLine_eq_some_iff (hl : l < 16) : lowestLine set = some l
    ↔ set.toNat.testBit l.toNat = true ∧ ∀ i < l.toNat, ¬set.toNat.testBit i = true := by
  have hl : l.toNat < 16 := hl
  -- the search runs over numbers, and the answer is one of them as a byte
  have hfind : (List.range 16).find? (fun i => set.toNat.testBit i) = some l.toNat
      ↔ set.toNat.testBit l.toNat = true ∧ ∀ i < l.toNat, ¬set.toNat.testBit i = true := by
    rw [List.find?_range_eq_some]
    simp only [List.mem_range, Bool.not_eq_true', Bool.not_eq_true]
    exact ⟨fun h => ⟨h.1, h.2.2⟩, fun h => ⟨h.1, hl, h.2⟩⟩
  rw [← hfind]
  unfold lowestLine
  rw [Option.map_eq_some_iff]
  constructor
  · rintro ⟨i, hi, rfl⟩
    have hlt : i < 16 := List.mem_range.mp (List.mem_of_find?_eq_some hi)
    rwa [UInt8.toNat_ofNat_of_lt' (Nat.lt_trans hlt (by decide))]
  · exact fun h => ⟨l.toNat, h, UInt8.ofNat_toNat⟩

/-- A set has no lowest line when none of the sixteen is in it. -/
theorem lowestLine_eq_none_iff :
    lowestLine set = none ↔ ∀ i < 16, ¬set.toNat.testBit i = true := by
  unfold lowestLine
  rw [Option.map_eq_none_iff, List.find?_eq_none]
  simp only [List.mem_range]

/-- **The line that the pair names** when its chips report these two bytes. -/
def namedLine (master slave : UInt8) : Option UInt8 :=
  lowestLine ((slave.toUInt16 <<< 8 ||| master.toUInt16)
    &&& ~~~((1 : UInt16) <<< cascadeLine.toUInt16))

/-- **The lowest line in service is named**, the cascade left aside. -/
theorem namedLine_eq_some_iff (hl : l < 16) : namedLine master slave = some l
    ↔ (l.toNat ≠ 2 ∧ Reports master slave l.toNat)
      ∧ ∀ i < l.toNat, i ≠ 2 → ¬Reports master slave i := by
  have hlt : l.toNat < 16 := hl
  unfold namedLine
  rw [lowestLine_eq_some_iff hl, testBit_reported master slave hlt]
  refine and_congr_right fun _ => forall₂_congr fun i hi => ?_
  rw [testBit_reported master slave (Nat.lt_trans hi hlt), not_and]

/-- No line is named when neither chip reports one, the cascade apart. -/
theorem namedLine_eq_none_iff :
    namedLine master slave = none ↔ ∀ i < 16, i ≠ 2 → ¬Reports master slave i := by
  unfold namedLine
  rw [lowestLine_eq_none_iff]
  refine forall₂_congr fun i hi => ?_
  rw [testBit_reported master slave hi, not_and]

end InService

/-! ## Asking the chips -/

section Asking

variable {X : Surroundings} [Behaviour X] {p : Pic MachinePorts} {master slave v l : UInt8}
  {irq? : Option UInt8} {k k' : Kernel X}

/-- **The chips are asked which lines are in service**: each gets the command that selects the
register with them, and then their command ports answer with these two bytes. -/
def Asked (k : Kernel X) (master slave : UInt8) (k' : Kernel X) : Prop :=
  ∃ k₁ k₂ k₃, PortBus.write8 (m := Boot X) Boot.ports 0x20 0x0b k = .ok () k₁
    ∧ PortBus.write8 (m := Boot X) Boot.ports 0xa0 0x0b k₁ = .ok () k₂
    ∧ PortBus.read8 (m := Boot X) Boot.ports 0x20 k₂ = .ok master k₃
    ∧ PortBus.read8 (m := Boot X) Boot.ports 0xa0 k₃ = .ok slave k'

/-- **On one of its vectors the pair asks its chips**, and goes by what they report. -/
theorem currentIrq_asks (hline : p.lineForVector v = some l)
    (h : p.currentIrq (m := Boot X) v k = .ok irq? k') :
    ∃ master slave k₁, Asked k master slave k₁ ∧ irq? = namedLine master slave := by
  unfold currentIrq at h
  rw [hline] at h
  obtain ⟨inService?, k₄, hask, h⟩ := bind_eq_ok.mp h
  obtain ⟨set, _, hset, hpure⟩ := bind_eq_ok.mp hask
  obtain ⟨rfl, rfl⟩ := pure_eq_ok.mp hpure
  obtain ⟨_, k₁, hmaster, hset⟩ := bind_eq_ok.mp hset
  obtain ⟨_, k₂, hslave, hset⟩ := bind_eq_ok.mp hset
  obtain ⟨master, k₃, hread, hset⟩ := bind_eq_ok.mp hset
  obtain ⟨slave, _, hread', hpure⟩ := bind_eq_ok.mp hset
  obtain ⟨rfl, rfl⟩ := pure_eq_ok.mp hpure
  refine ⟨master, slave, _, ⟨k₁, k₂, k₃, hmaster, hslave, hread, hread'⟩, ?_⟩
  -- A report of no line may be logged, and names none all the same.
  rw [show lowestLine _ = namedLine master slave from rfl] at h
  cases hnamed : namedLine master slave with
  | some irq =>
    rw [hnamed] at h
    exact (pure_eq_ok.mp h).1.symm
  | none =>
    rw [hnamed] at h
    dsimp only at h
    split at h
    · obtain ⟨_, _, -, hpure⟩ := bind_eq_ok.mp h
      exact (pure_eq_ok.mp hpure).1.symm
    · exact (pure_eq_ok.mp h).1.symm

end Asking

end Pic

/-! ## Deliveries -/

section Delivery

open Boot

variable {X : Surroundings} [Behaviour X]

/-- The line that the pair names is the one that its chips report, at the time when the executing
processor is known. -/
theorem HandlersRan.asks {f f' : Frame} {k k' : Kernel X} {irq? : Option UInt8} {l : UInt8}
    (hline : k.pic.lineForVector f.vectorByte = some l) (h : HandlersRan .pic f k irq? f' k') :
    ∃ cpu k₀ master slave k₁, currentCpu k = .ok cpu k₀ ∧ Pic.Asked k₀ master slave k₁
      ∧ irq? = Pic.namedLine master slave := by
  obtain ⟨cpu, k₀, k₁, _, _, hcpu, hirq, -⟩ := h
  obtain ⟨_, _, ⟨⟩, hirq⟩ := bind_eq_ok.mp hirq
  have hpic : k₀.pic = k.pic :=
    ((Conduct.obeys_currentCpu (c := .free X False fun _ => True)).returns hcpu).pic
  rw [← hpic] at hline
  obtain ⟨master, slave, k₂, hasked, hirq?⟩ := Pic.currentIrq_asks hline hirq
  exact ⟨cpu, k₀, master, slave, k₂, hcpu, hasked, hirq?⟩

/-- A stub passes on the vector it belongs to. -/
theorem vectorByte_stubFrame (v : UInt8) (f : Frame) : (stubFrame v f).vectorByte = v :=
  UInt8.toUInt8_toUInt64 v

/-- **No line of the 8259 pair is lost on the way to its handlers**, whatever the command line says.
With the bases that it chooses, all sixteen lines are delivered on vectors, and no two on the same
one. A vector that is not the spurious one is routed to the registry and leads back to its line.

When it is delivered, the chips are asked which lines are in service. If they report only this one,
the cascade left aside, it is the line that is served, and then it is ended: the slave is told for
its lines, and the master always. If they report none, none is served. -/
theorem deliver_picVector {line : Option String} {c : Config} (hcfg : c = .ofCommandLine line) :
    (∀ l : UInt8, l < 16 → c.picVector l ≤ 0xff
        ∧ ∀ l' : UInt8, l' < 16 → c.picVector l' = c.picVector l → l' = l)
      ∧ ∀ l v : UInt8, l < 16 → v.toNat = c.picVector l → v ≠ Vectors.spurious →
        Vectors.route v = .irq
          ∧ (∀ {P : Type} (p : Pic P), p.offsets = (c.masterBase, c.slaveBase) →
            p.lineForVector v = some l)
          ∧ ∀ (f : Frame) (k : Kernel (Watched X)), k.active = some .pic →
            k.pic.offsets = (c.masterBase, c.slaveBase) →
            (k.Calm → ∃ f' k', deliver v f k = .ok f' k')
              ∧ ∀ f' k', deliver v f k = .ok f' k' →
                ∃ irq? k₁, HandlersRan .pic (stubFrame v f) k irq? f' k₁
                  ∧ Silently k.hardware k₁.hardware
                  ∧ ∃ cpu k₂ master slave k₃, currentCpu k = .ok cpu k₂
                    ∧ Pic.Asked k₂ master slave k₃
                    ∧ ((∀ i < 16, i ≠ 2 → (Pic.Reports master slave i ↔ i = l.toNat)) → l ≠ 2 →
                      irq? = some l ∧ k'.events = k₁.events ++
                        if l < 8 then [.out 0x20 0x20] else [.out 0xa0 0x20, .out 0x20 0x20])
                    ∧ ((∀ i < 16, i ≠ 2 → ¬Pic.Reports master slave i) → irq? = none) := by
  have hc : c.IsSound := hcfg ▸ Config.isSound_ofCommandLine line
  refine ⟨fun l hl => ⟨(Config.picVector_bounds hc hl).2, fun l' hl' =>
    Config.picVector_injective hc hl hl'⟩, fun l v hl hv hspurious => ?_⟩
  have hroute : Vectors.route v = .irq := by
    have hbounds := Config.picVector_bounds hc hl
    have hlast : v.toNat ≠ 255 := fun h => hspurious (UInt8.toNat_inj.mp h)
    exact Vectors.route_eq_irq_iff.mpr (by omega)
  refine ⟨hroute, fun p hoffsets =>
    Pic.lineForVector_picVector hc hl hoffsets hv hspurious, fun f k hactive hoffsets =>
    ⟨fun hcalm => ?_, fun f' k' hrun => ?_⟩⟩
  · exact hcalm.enter_returns
      (Vectors.route_eq_irq_iff.mp ((vectorByte_stubFrame v f).symm ▸ hroute)).1
  · have hline := Pic.lineForVector_picVector hc hl hoffsets hv hspurious
    rw [← vectorByte_stubFrame v f] at hroute hline
    -- the delivery asks first, runs the handlers of the named line, and sends the commands last
    obtain ⟨irq?, k₁, k₂, hran, heoi, hhardware⟩ := enter_ends hroute hactive hrun
    obtain ⟨hsilent, hpic⟩ := hran.silently hactive
    obtain ⟨cpu, k₃, master, slave, k₄, hcpu, hasked, hirq⟩ := hran.asks hline
    refine ⟨irq?, k₁, hran, hsilent, cpu, k₃, master, slave, k₄, hcpu, hasked,
      fun honly hne => ?_, fun hnone => ?_⟩
    -- with `l` alone in service there is no lower line for the scan to stop at
    · have hother : l.toNat ≠ 2 := fun h => hne (UInt8.toNat_inj.mp h)
      have hlt : l.toNat < 16 := hl
      have hirq : irq? = some l := by
        rw [hirq]
        refine (Pic.namedLine_eq_some_iff hl).mpr
          ⟨⟨hother, (honly _ hlt hother).mpr rfl⟩, fun i hi hcascade hreports => ?_⟩
        exact absurd ((honly i (Nat.lt_trans hi hlt) hcascade).mp hreports) (Nat.ne_of_lt hi)
      have hevents : k'.events = k₂.events := congrArg Prod.snd hhardware
      rw [hevents, acknowledge_pic_events heoi, hirq]
      refine ⟨rfl, congrArg (k₁.events ++ ·) ?_⟩
      unfold Pic.endings
      by_cases hchip : l < 8
      · exact (if_neg (UInt8.not_le.mpr hchip)).trans (if_pos hchip).symm
      · exact (if_pos (UInt8.not_lt.mp hchip)).trans (if_neg hchip).symm
    · rw [hirq]
      exact Pic.namedLine_eq_none_iff.mpr hnone

/-- A machine whose command ports always read as these two bytes. -/
def Reporting (_master _slave : UInt8) : Surroundings :=
  Still

instance (master slave : UInt8) : Behaviour (Reporting master slave) :=
  { (inferInstance : Behaviour Still) with
    portRead := fun port hw => (if port = Pic.masterCommand then master else slave, hw) }

/-- Ports that always report the same two registers are read to say just that. -/
theorem Pic.Asked.reporting {master slave master' slave' : UInt8}
    {k k' : Kernel (Watched (Reporting master slave))} (h : Asked k master' slave' k') :
    master' = master ∧ slave' = slave := by
  obtain ⟨_, _, _, hmaster, hslave, hread, hread'⟩ := h
  cases hmaster
  cases hslave
  cases hread
  cases hread'
  exact ⟨rfl, rfl⟩

/-- The mouse of a machine that wants its master at `0x40`: it interrupts on line 12, and the slave
reports to the master on line 2. Both chips are told when it has been served. -/
theorem deliver_picVector_mouse :
    let line := some "irq.pic_master=0x40"
    let c := Config.ofCommandLine line
    let k : Kernel (Watched (Reporting 0x04 0x10)) :=
      { hardware := ((), []), active := some .pic, pic := { ports := {}, master := 0x40 } }
    let f := Frame.forVector 0 0
    ((12 : UInt8) < 16 ∧ (0x2c : UInt8).toNat = c.picVector 12 ∧ (0x2c : UInt8) ≠ Vectors.spurious
        ∧ k.active = some .pic ∧ k.pic.offsets = (c.masterBase, c.slaveBase) ∧ k.Calm
        ∧ (∀ i < 16, i ≠ 2 → (Pic.Reports 0x04 0x10 i ↔ i = 12)))
      ∧ ∃ f' k' k₁, deliver 0x2c f k = .ok f' k'
        ∧ HandlersRan .pic (stubFrame 0x2c f) k (some 12) f' k₁
        ∧ k'.events = k₁.events ++ [.out 0xa0 0x20, .out 0x20 0x20] := by
  intro line c k f
  have hcalm : k.Calm := ⟨nofun, nofun, nofun⟩
  have hvector : (0x2c : UInt8).toNat = c.picVector 12 := by decide +kernel
  have hoffsets : k.pic.offsets = (c.masterBase, c.slaveBase) := by decide +kernel
  have honly : ∀ i < 16, i ≠ 2 → (Pic.Reports 0x04 0x10 i ↔ i = 12) := by
    unfold Pic.Reports
    decide
  have hcfg : c = .ofCommandLine line := rfl
  obtain ⟨-, -, hdeliver⟩ := (deliver_picVector (X := Reporting 0x04 0x10) hcfg).2 12 0x2c
    (by decide) hvector (by decide)
  obtain ⟨hreturns, hends⟩ := hdeliver f k rfl hoffsets
  obtain ⟨f', k', hrun⟩ := hreturns hcalm
  obtain ⟨irq?, k₁, hran, -, _, _, _, _, _, -, hasked, hserved, -⟩ := hends f' k' hrun
  obtain ⟨rfl, rfl⟩ := hasked.reporting
  obtain ⟨rfl, hevents⟩ := hserved honly (by decide)
  exact ⟨⟨by decide, hvector, by decide, rfl, hoffsets, hcalm, honly⟩, f', k', k₁, hrun, hran,
    hevents⟩

/-- **Two of the lines are lost all the same.** With the master at `0xf8`, its last line shares its
vector with spurious deliveries and does not lead back. And the line of the cascade is no line of a
device: when nothing else is in service, none is served and nothing is ended. -/
theorem picVector_lost :
    (let c := Config.ofCommandLine (some "irq.force_pic=on irq.pic_master=0xf8")
      let p : Pic Unit := { ports := (), master := c.masterBase, slave := c.slaveBase }
      c.picVector 7 = 0xff ∧ Vectors.route 0xff = .spurious ∧ p.lineForVector 0xff = none)
      ∧ let c := Config.ofCommandLine none
        let k : Kernel (Watched (Reporting 0x04 0)) :=
          { hardware := ((), []), active := some .pic }
        c.picVector 2 = 0x22 ∧ k.pic.offsets = (c.masterBase, c.slaveBase)
          ∧ (∀ i < 16, Pic.Reports 0x04 0 i ↔ i = 2)
          ∧ (match deliver 0x22 (Frame.forVector 0 0) k with
            | .ok _ k' => some k'.events
            | .error _ _ => none) = some [.out 0x20 0x0b, .out 0xa0 0x0b] := by
  refine ⟨by decide +kernel, by decide, by decide, ?_, ?_⟩
  · unfold Pic.Reports
    decide
  · decide +kernel

end Delivery

end Interrupts
