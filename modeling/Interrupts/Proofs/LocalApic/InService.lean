import Interrupts.LocalApic.Driver
import Interrupts.Proofs.Discipline

/-!
# Which line the Local APIC has in service

The vectors in service are the bits of eight words. `ShowsService` says that the registers show
certain words, in states that reading does not leave; then the driver's answer is a function of the
words. When a single vector is in service, it is this vector that is found, and its line is named
exactly when the vector is one of the controller's.
-/

namespace Interrupts.LocalApic

variable {R σ : Type} [RegisterBus R (EStateM Stop σ)] {a : LocalApic R} {words : Nat → UInt32}
  {here : σ → Prop} {irqBase v : UInt8} {lines i : Nat}

/-- **The registers show these words of the vectors in service**, and go on to do so when they are
read. -/
def ShowsService (a : LocalApic R) (words : Nat → UInt32) (here : σ → Prop) : Prop :=
  ∀ s, here s → ∀ i < serviceWords, ∃ s', here s'
    ∧ RegisterBus.read32 (m := EStateM Stop σ) a.window (serviceRegister i) s = .ok (words i) s'

/-- The words are looked at from the lowest up, until one names a line. -/
theorem ShowsService.inServiceFrom (h : ShowsService a words here) (irqBase : UInt8) (lines : Nat)
    {left word : Nat} (hle : word + left ≤ serviceWords) {s : σ} (hs : here s) :
    ∃ s', here s' ∧ a.inServiceFrom (m := EStateM Stop σ) irqBase lines left word s
      = .ok ((List.range' word left).findSome? fun i => lineOfWord irqBase lines i (words i))
        s' := by
  induction left generalizing word s with
  | zero => exact ⟨s, hs, rfl⟩
  | succ left ih =>
    -- the words before this one have yielded nothing, so the scan is that of the words from here on
    obtain ⟨s₁, hs₁, hread⟩ : ∃ s₁, here s₁
      ∧ a.read (m := EStateM Stop σ) (serviceRegister word) s = .ok (words word) s₁ :=
      h s hs word (by omega)
    unfold LocalApic.inServiceFrom
    rw [bind_of_ok hread, List.range'_succ, List.findSome?_cons]
    cases lineOfWord irqBase lines word (words word) with
    | some line => exact ⟨s₁, hs₁, rfl⟩
    | none => exact ih (by omega) hs₁

/-- The whole scan answers the first word that yields a line, and leaves a state in which the words
are still shown. -/
theorem ShowsService.inService (h : ShowsService a words here) (irqBase : UInt8) (lines : Nat)
    {s : σ} (hs : here s) :
    ∃ s', here s' ∧ a.inService (m := EStateM Stop σ) irqBase lines s
      = .ok ((List.range' 0 serviceWords).findSome? fun i => lineOfWord irqBase lines i (words i))
        s' :=
  h.inServiceFrom irqBase lines (Nat.le_of_eq (Nat.zero_add _)) hs

/-! ## A single vector -/

/-- **The words show one vector in service**, and no other. -/
def OnlyVector (words : Nat → UInt32) (v : UInt8) : Prop :=
  ∀ i < serviceWords, ∀ b < 32, (words i).toNat.testBit b = true ↔ 32 * i + b = v.toNat

/-- With one bit set the lowest set bit is that bit. -/
theorem lowestBit_of_only {bits : UInt32} {b : Nat} (hb : b < 32)
    (h : ∀ b' < 32, bits.toNat.testBit b' = true ↔ b' = b) : lowestBit bits = some b := by
  unfold lowestBit
  rw [List.find?_range_eq_some]
  refine ⟨(h b hb).mpr rfl, List.mem_range.mpr hb, fun b' hb' => ?_⟩
  rw [Bool.not_eq_true', Bool.eq_false_iff]
  exact fun hbit => Nat.ne_of_lt hb' ((h b' (Nat.lt_trans hb' hb)).mp hbit)

/-- A word without a set bit has no lowest one. -/
theorem lowestBit_of_empty {bits : UInt32} (h : ∀ b < 32, ¬bits.toNat.testBit b = true) :
    lowestBit bits = none := by
  unfold lowestBit
  rw [List.find?_eq_none]
  exact fun b hb => h b (List.mem_range.mp hb)

/-- The word of the vector names its line, if it has one. -/
theorem OnlyVector.lineOfWord (hv : OnlyVector words v) (irqBase : UInt8) (lines : Nat) :
    lineOfWord irqBase lines (v.toNat / 32) (words (v.toNat / 32))
      = if irqBase.toNat ≤ v.toNat ∧ v.toNat - irqBase.toNat < lines then
          some (UInt8.ofNat (v.toNat - irqBase.toNat))
        else none := by
  have hlt := v.toNat_lt
  -- the only bit of the array stands in the word of `v`, at its place
  have hlowest : lowestBit (words (v.toNat / 32)) = some (v.toNat % 32) := by
    refine lowestBit_of_only (Nat.mod_lt _ (by decide)) fun b hb => ?_
    rw [hv (v.toNat / 32) (by unfold serviceWords; omega) b hb]
    omega
  have hvector : v.toNat / 32 * 32 + v.toNat % 32 = v.toNat := by omega
  unfold LocalApic.lineOfWord
  rw [hlowest, Option.bind_some]
  dsimp only
  rw [hvector]

/-- The other words are empty. -/
theorem OnlyVector.lineOfWord_of_ne (hv : OnlyVector words v) (irqBase : UInt8) (lines : Nat)
    (hi : i < serviceWords) (hne : i ≠ v.toNat / 32) :
    LocalApic.lineOfWord irqBase lines i (words i) = none := by
  have hlowest : lowestBit (words i) = none := by
    refine lowestBit_of_empty fun b hb hbit => ?_
    have := (hv i hi b hb).mp hbit
    omega
  unfold LocalApic.lineOfWord
  rw [hlowest]
  rfl

/-- What is found in a list is found at the only place where there is something to find. -/
theorem findSome?_of_only {α β : Type} {f : α → Option β} {l : List α} {x : α} (hx : x ∈ l)
    (h : ∀ y ∈ l, y ≠ x → f y = none) : l.findSome? f = f x := by
  obtain ⟨before, after, rfl, hbefore⟩ := List.eq_append_cons_of_mem hx
  cases hfound : f x with
  | some b =>
    refine List.findSome?_eq_some_iff.mpr ⟨before, x, after, rfl, hfound, fun y hy => ?_⟩
    exact h y (List.mem_append_left _ hy) fun heq => hbefore (heq ▸ hy)
  | none =>
    refine List.findSome?_eq_none_iff.mpr fun y hy => ?_
    by_cases heq : y = x
    · rw [heq, hfound]
    · exact h y hy heq

/-- **The line of the vector in service** is found, if the vector has one. -/
theorem ShowsService.inService_of_only (h : ShowsService a words here) (hv : OnlyVector words v)
    (irqBase : UInt8) (lines : Nat) {s : σ} (hs : here s) :
    ∃ s', here s' ∧ a.inService (m := EStateM Stop σ) irqBase lines s
      = .ok (if irqBase.toNat ≤ v.toNat ∧ v.toNat - irqBase.toNat < lines then
          some (UInt8.ofNat (v.toNat - irqBase.toNat))
        else none) s' := by
  obtain ⟨s', hs', hrun⟩ := h.inService irqBase lines hs
  have hword : v.toNat / 32 ∈ List.range' 0 serviceWords := by
    have hlt := v.toNat_lt
    rw [List.mem_range'_1]
    unfold serviceWords
    omega
  rw [findSome?_of_only hword fun i hi hne => hv.lineOfWord_of_ne irqBase lines
    (by rw [List.mem_range'_1] at hi; omega) hne, hv.lineOfWord] at hrun
  exact ⟨s', hs', hrun⟩

end Interrupts.LocalApic
