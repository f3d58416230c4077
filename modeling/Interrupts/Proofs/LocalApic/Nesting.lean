import Interrupts.Proofs.LocalApic.Numbering

/-!
# The line is read off the vectors in service

Which line a delivery is for is read off the vectors in service, and not off the vector that was
delivered. The eight words are gone through from below. The lowest vector of each word *leads* this
word, and the answer is the line of the lowest leader that belongs to the controller (`Names`).

A delivery is found in this way if it is the only one of the controller and no vector below the
controller's first one is in service in its word. This is how deliveries come as long as handlers
run with interrupts off. If several are in service, one within the other, all of them get the same
answer, which is right for one of them at most. `namesDeliveries_iff` says what the answer is in
every state, and that these are all the states in which each delivery finds its line.
-/

namespace Interrupts

namespace LocalApic

variable {words : Nat → UInt32} {irqBase u v line : UInt8} {lines i b : Nat}

/-! ## Vectors in service -/

/-- **A vector is in service.** -/
def InService (words : Nat → UInt32) (v : UInt8) : Prop :=
  (words (v.toNat / 32)).toNat.testBit (v.toNat % 32) = true

instance (words : Nat → UInt32) : DecidablePred (InService words) := fun _ =>
  inferInstanceAs (Decidable (_ = true))

/-- **A vector leads its word**: it is the lowest one in service there. -/
def Leads (words : Nat → UInt32) (v : UInt8) : Prop :=
  InService words v
    ∧ ∀ u, InService words u → u.toNat / 32 = v.toNat / 32 → v.toNat ≤ u.toNat

/-- **A vector belongs to the controller** whose `lines` vectors begin with `irqBase`. -/
def Owns (irqBase : UInt8) (lines : Nat) (v : UInt8) : Prop :=
  irqBase.toNat ≤ v.toNat ∧ v.toNat < irqBase.toNat + lines

instance (irqBase : UInt8) (lines : Nat) : DecidablePred (Owns irqBase lines) := fun _ =>
  inferInstanceAs (Decidable (_ ∧ _))

/-- The lowest set bit is a set bit below which none is set. -/
theorem lowestBit_eq_some {bits : UInt32} :
    lowestBit bits = some b ↔ b < 32 ∧ bits.toNat.testBit b = true
      ∧ ∀ b' < b, ¬bits.toNat.testBit b' = true := by
  unfold lowestBit
  rw [List.find?_range_eq_some, List.mem_range]
  simp only [Bool.not_eq_true', Bool.not_eq_true]
  exact and_left_comm

/-- The vector that leads its word is the lowest set bit there. -/
theorem Leads.lowestBit (h : Leads words v) :
    lowestBit (words (v.toNat / 32)) = some (v.toNat % 32) := by
  refine lowestBit_eq_some.mpr ⟨Nat.mod_lt _ (by decide), h.1, fun b hb hbit => ?_⟩
  -- a lower set bit would be the bit of a vector in service in the same word
  have hu : (UInt8.ofNat (v.toNat / 32 * 32 + b)).toNat = v.toNat / 32 * 32 + b := by
    have hlt := v.toNat_lt
    exact UInt8.toNat_ofNat_of_lt' (by unfold UInt8.size; omega)
  have hword : (v.toNat / 32 * 32 + b) / 32 = v.toNat / 32 := by omega
  have hplace : (v.toNat / 32 * 32 + b) % 32 = b := by omega
  have hle := h.2 (UInt8.ofNat (v.toNat / 32 * 32 + b))
    (by rwa [InService, hu, hword, hplace]) (by rw [hu, hword])
  rw [hu] at hle
  omega

/-- The lowest bit of a word stands for its leader. -/
theorem exists_leads_of_lowestBit (hi : i < serviceWords) (h : lowestBit (words i) = some b) :
    ∃ v, Leads words v ∧ v.toNat = i * 32 + b ∧ v.toNat / 32 = i := by
  obtain ⟨hb, hbit, hlow⟩ := lowestBit_eq_some.mp h
  have hv : (UInt8.ofNat (i * 32 + b)).toNat = i * 32 + b := by
    unfold serviceWords at hi
    exact UInt8.toNat_ofNat_of_lt' (by unfold UInt8.size; omega)
  have hword : (i * 32 + b) / 32 = i := by omega
  have hplace : (i * 32 + b) % 32 = b := by omega
  refine ⟨UInt8.ofNat (i * 32 + b), ⟨?_, fun u hu heq => ?_⟩, hv, by rw [hv, hword]⟩
  · rwa [InService, hv, hword, hplace]
  -- another vector in service in this word has its bit at or above `b`
  · rw [hv, hword] at heq
    rw [InService, heq] at hu
    have hnot : ¬u.toNat % 32 < b := fun hlt => hlow _ hlt hu
    rw [hv]
    omega

/-- Where a vector is in service, its word has a leader. -/
theorem InService.exists_leads (h : InService words v) :
    ∃ u, Leads words u ∧ u.toNat / 32 = v.toNat / 32 ∧ u.toNat ≤ v.toNat := by
  have hlt := v.toNat_lt
  -- the word has the bit of `v` set, so the search for its lowest bit cannot come back empty
  cases hlowest : LocalApic.lowestBit (words (v.toNat / 32)) with
  | none =>
    unfold LocalApic.lowestBit at hlowest
    rw [List.find?_eq_none] at hlowest
    exact absurd h (hlowest _ (List.mem_range.mpr (Nat.mod_lt _ (by decide))))
  | some b =>
    obtain ⟨u, hu, -, hword⟩ :=
      exists_leads_of_lowestBit (by unfold serviceWords; omega) hlowest
    exact ⟨u, hu, hword, hu.2 v h hword.symm⟩

/-! ## The line that is found -/

theorem Owns.ofNat_sub (h : Owns irqBase lines v) :
    UInt8.ofNat (v.toNat - irqBase.toNat) = v - irqBase := by
  rw [← UInt8.toNat_sub_of_le _ _ (UInt8.le_iff_toNat_le.mpr h.1), UInt8.ofNat_toNat]

/-- A word names the line of its leader, if the leader belongs to the controller. -/
theorem lineOfWord_eq_some (hi : i < serviceWords) :
    lineOfWord irqBase lines i (words i) = some line ↔
      ∃ v, Leads words v ∧ v.toNat / 32 = i ∧ Owns irqBase lines v ∧ line = v - irqBase := by
  unfold lineOfWord
  constructor
  · intro h
    obtain ⟨b, hlowest, h⟩ := Option.bind_eq_some_iff.mp h
    -- the range check is made on the vector that leads the word, and on no other of the word
    obtain ⟨v, hv, hvb, hword⟩ := exists_leads_of_lowestBit hi hlowest
    dsimp only at h
    rw [← hvb, Option.ite_none_right_eq_some] at h
    obtain ⟨⟨hle, hlt⟩, hline⟩ := h
    have howns : Owns irqBase lines v := ⟨hle, by omega⟩
    exact ⟨v, hv, hword, howns, by rw [← howns.ofNat_sub, Option.some.inj hline]⟩
  · rintro ⟨v, hv, rfl, howns, rfl⟩
    have hvector : v.toNat / 32 * 32 + v.toNat % 32 = v.toNat := by omega
    rw [hv.lowestBit, Option.bind_some]
    dsimp only
    obtain ⟨hle, hlt⟩ := howns
    rw [hvector, if_pos ⟨hle, by omega⟩, Owns.ofNat_sub ⟨hle, hlt⟩]

/-- **The vector whose line is named**: the lowest leader that belongs to the controller. -/
def Names (words : Nat → UInt32) (irqBase : UInt8) (lines : Nat) (v : UInt8) : Prop :=
  Leads words v ∧ Owns irqBase lines v
    ∧ ∀ u, Leads words u → Owns irqBase lines u → v.toNat ≤ u.toNat

/-- A search through the first `n` numbers ends at the least one that yields something. -/
theorem findSome?_range'_eq_some {α : Type} {f : Nat → Option α} {n : Nat} {a : α} :
    (List.range' 0 n).findSome? f = some a ↔ ∃ i < n, f i = some a ∧ ∀ j < i, f j = none := by
  rw [List.findSome?_eq_some_iff]
  constructor
  · rintro ⟨before, i, after, hsplit, hfound, hnone⟩
    obtain ⟨k, -, rfl, hrest⟩ := List.range'_eq_append_iff.mp hsplit
    obtain ⟨rfl, hlt, -⟩ := List.range'_eq_cons_iff.mp hrest.symm
    refine ⟨0 + k * 1, by omega, hfound, fun j hj => hnone j ?_⟩
    rw [List.mem_range'_1]
    omega
  · rintro ⟨i, hi, hfound, hnone⟩
    refine ⟨List.range' 0 i, i, List.range' (i + 1) (n - i - 1), ?_, hfound, fun j hj => ?_⟩
    · refine List.range'_eq_append_iff.mpr ⟨i, Nat.le_of_lt hi, rfl, ?_⟩
      rw [eq_comm, List.range'_eq_cons_iff, Nat.zero_add]
      exact ⟨Nat.mul_one i, Nat.sub_pos_of_lt hi, rfl⟩
    · rw [List.mem_range'_1] at hj
      exact hnone j (by omega)

/-- **The line that is found** is that of the vector that is named. -/
theorem findSome?_lineOfWord :
    ((List.range' 0 serviceWords).findSome? fun i => lineOfWord irqBase lines i (words i))
        = some line ↔
      ∃ v, Names words irqBase lines v ∧ line = v - irqBase := by
  rw [findSome?_range'_eq_some]
  constructor
  · rintro ⟨i, hi, hfound, hnone⟩
    obtain ⟨v, hv, rfl, howns, hline⟩ := (lineOfWord_eq_some hi).mp hfound
    refine ⟨v, ⟨hv, howns, fun u hu howns' => ?_⟩, hline⟩
    -- A lower leader would have been found in an earlier word.
    by_contra hlt
    rcases Nat.lt_or_ge (u.toNat / 32) (v.toNat / 32) with hword | hword
    · have hearlier := (lineOfWord_eq_some (Nat.lt_trans hword hi)).mpr ⟨u, hu, rfl, howns', rfl⟩
      rw [hnone _ hword] at hearlier
      exact (Option.some_ne_none _ hearlier.symm).elim
    · exact hlt (hv.2 u hu.1 (by omega))
  · rintro ⟨v, ⟨hv, howns, hlow⟩, rfl⟩
    have hi : v.toNat / 32 < serviceWords := by
      have hlt := v.toNat_lt
      unfold serviceWords
      omega
    refine ⟨v.toNat / 32, hi, (lineOfWord_eq_some hi).mpr ⟨v, hv, rfl, howns, rfl⟩, fun j hj => ?_⟩
    rw [Option.eq_none_iff_forall_ne_some]
    intro line hfound
    obtain ⟨u, hu, rfl, howns', -⟩ := (lineOfWord_eq_some (Nat.lt_trans hj hi)).mp hfound
    have hle := hlow u hu howns'
    omega

end LocalApic

/-! ## The line of a delivery -/

namespace ApicController

open LocalApic

variable {L I σ : Type} [RegisterBus L (EStateM Stop σ)] (c : ApicController L I)
  (words : Nat → UInt32) (here : σ → Prop)

/-- The vectors of the controller's lines. -/
def OwnsVector (v : UInt8) : Prop :=
  Owns c.irqBase c.lines v

instance : DecidablePred c.OwnsVector :=
  inferInstanceAs (DecidablePred (Owns c.irqBase c.lines))

/-- **Every delivery finds its line.** Asked during the delivery of a vector of its own that is in
service, the controller names the line of this vector; and it names none only if no vector of its
own is in service. -/
def NamesDeliveries : Prop :=
  (∀ v, c.OwnsVector v → InService words v → ∀ s, here s →
    ∃ s', here s' ∧ c.currentIrq (m := EStateM Stop σ) v s = .ok (some (v - c.irqBase)) s')
    ∧ ∀ v s s', here s → c.currentIrq (m := EStateM Stop σ) v s = .ok none s' →
      ∀ u, InService words u → ¬c.OwnsVector u

/-- **No delivery is nested**, as far as the controller can tell: no two of its vectors are in
service, and no vector below its first one shares a word with one of them. -/
def Unnested : Prop :=
  (∀ u v, InService words u → InService words v → c.OwnsVector u → c.OwnsVector v → u = v)
    ∧ ∀ u v, InService words u → InService words v → c.OwnsVector v →
      u.toNat / 32 = v.toNat / 32 → c.irqBase.toNat ≤ u.toNat

variable {c words here}

/-- The answer, whatever the vector that is asked about. -/
theorem currentIrq_eq (hshows : c.localApic.ShowsService words here) (v : UInt8) {s : σ}
    (hs : here s) :
    ∃ s', here s' ∧ c.currentIrq (m := EStateM Stop σ) v s
      = .ok ((List.range' 0 serviceWords).findSome? fun i =>
          lineOfWord c.irqBase c.lines i (words i)) s' :=
  hshows.inService c.irqBase c.lines hs

theorem sub_irqBase_injective {u v : UInt8} (h : u - c.irqBase = v - c.irqBase) : u = v := by
  rw [← UInt8.sub_add_cancel u c.irqBase, h, UInt8.sub_add_cancel]

/-- **A delivery of the controller leads its word** when no delivery is nested. -/
theorem Unnested.names (h : c.Unnested words) {v : UInt8} (hv : InService words v)
    (howns : c.OwnsVector v) : Names words c.irqBase c.lines v := by
  obtain ⟨u, hu, hword, hle⟩ := hv.exists_leads
  have hlow := h.2 u v hu.1 hv howns hword
  have hown : c.OwnsVector u := ⟨hlow, Nat.lt_of_le_of_lt hle howns.2⟩
  obtain rfl := h.1 u v hu.1 hv hown howns
  exact ⟨hu, howns, fun w hw hown' => (h.1 u w hv hw.1 howns hown') ▸ Nat.le_refl _⟩

/-- **The line that the APICs name** is that of the lowest vector that leads a word of those in
service and belongs to the controller, whatever the vector that was delivered; when there is no such
vector, they name none. So every delivery finds its line exactly when no delivery is nested. -/
theorem namesDeliveries_iff (hshows : c.localApic.ShowsService words here) {s : σ} (hs : here s) :
    (∃ answer,
      (∀ v s, here s → ∃ s', here s' ∧ c.currentIrq (m := EStateM Stop σ) v s = .ok answer s')
        ∧ ∀ line, answer = some line ↔
          ∃ v, Names words c.irqBase c.lines v ∧ line = v - c.irqBase)
      ∧ (c.NamesDeliveries words here ↔ c.Unnested words) := by
  refine ⟨⟨_, fun v s hs => currentIrq_eq hshows v hs, fun line => findSome?_lineOfWord⟩,
    fun h => ?_, fun h => ⟨fun v howns hv s hs => ?_, fun v s s' hs hrun u hu howns => ?_⟩⟩
  · -- There is one answer only, so every vector in service of the controller is the named one.
    have hnamed {v : UInt8} (hv : InService words v) (howns : c.OwnsVector v) :
        Names words c.irqBase c.lines v := by
      obtain ⟨s₁, -, hrun⟩ := currentIrq_eq hshows v hs
      obtain ⟨s₂, -, hline⟩ := h.1 v howns hv s hs
      rw [hrun, EStateM.Result.ok.injEq, findSome?_lineOfWord] at hline
      obtain ⟨⟨u, hu, heq⟩, -⟩ := hline
      rwa [sub_irqBase_injective heq]
    refine ⟨fun u v hu hv hown hown' => ?_, fun u v hu hv howns hword => ?_⟩
    · have hle := (hnamed hu hown).2.2 v (hnamed hv hown').1 hown'
      have hge := (hnamed hv hown').2.2 u (hnamed hu hown).1 hown
      exact UInt8.toNat_inj.mp (Nat.le_antisymm hle hge)
    · exact Nat.le_trans howns.1 ((hnamed hv howns).1.2 u hu hword)
  · obtain ⟨s', hs', hrun⟩ := currentIrq_eq hshows v hs
    rw [findSome?_lineOfWord.mpr ⟨v, h.names hv howns, rfl⟩] at hrun
    exact ⟨s', hs', hrun⟩
  · obtain ⟨s₁, -, hrun'⟩ := currentIrq_eq hshows v hs
    rw [findSome?_lineOfWord.mpr ⟨u, h.names hu howns, rfl⟩, hrun] at hrun'
    cases hrun'

end ApicController

/-! ## Two vectors at a time -/

namespace Sim.LineRig

open LocalApic

/-- A rig that shows the vectors from `0x20` on in one word, and those from `0x40` on in the next. -/
def showing (bits higher : UInt32) : Bench LineRig where
  device :=
    { page := ((({} : RegisterPage).preset (serviceRegister 1) bits).preset
        (serviceRegister 2) higher) }

/-- The words of this rig. -/
def shown (bits higher : UInt32) (i : Nat) : UInt32 :=
  (showing bits higher).device.page.value (serviceRegister i)

/-- The states of this rig in which it still shows them. -/
def Unwritten (bits higher : UInt32) (b : Bench LineRig) : Prop :=
  b.device.page.values = (showing bits higher).device.page.values

theorem showsService_showing (bits higher : UInt32) :
    localApic.ShowsService (shown bits higher) (Unwritten bits higher) :=
  showsService_page (showing bits higher).device.page

/-- The two APICs of this rig, with the 24 vectors from `base` on. -/
def bothApics (base : UInt8) :
    ApicController (Socket LineRig RegisterPage) (Socket LineRig SelectWindow) where
  localApic := localApic
  ioApic :=
    { window := windowSocket, id := 2, physAddress := 0xfec00000, gsiBase := 0, version := 0x170011,
      pins := 24, overrides := Vector.replicate 16 none, destination := 0 }
  irqBase := base

/-- The vectors of a word are known from their bits. -/
theorem inService_shown {p : UInt8 → Prop} {bits higher : UInt32}
    (h : ∀ k < 256, InService (shown bits higher) (UInt8.ofNat k) → p (UInt8.ofNat k)) {v : UInt8}
    (hv : InService (shown bits higher) v) : p v := by
  have hk := h v.toNat v.toNat_lt
  rw [UInt8.ofNat_toNat] at hk
  exact hk hv

/-- Vector `0x25` is in service, and vector `0x50`, which is not one of the controller's: the line of
`0x25` is named. -/
theorem namesDeliveries_foreign :
    localApic.ShowsService (shown 0x20 0x10000) (Unwritten 0x20 0x10000)
      ∧ Unwritten 0x20 0x10000 (showing 0x20 0x10000)
      ∧ (bothApics 0x20).Unnested (shown 0x20 0x10000)
      ∧ (bothApics 0x20).NamesDeliveries (shown 0x20 0x10000) (Unwritten 0x20 0x10000) := by
  have hunwritten : Unwritten 0x20 0x10000 (showing 0x20 0x10000) := rfl
  have hvectors {v : UInt8} (hv : InService (shown 0x20 0x10000) v) : v = 0x25 ∨ v = 0x50 :=
    inService_shown (p := fun v => v = 0x25 ∨ v = 0x50) (by decide +kernel) hv
  -- vector 0x50 stands in another word and belongs to no line
  have hforeign : ¬(bothApics 0x20).OwnsVector 0x50 := by decide +kernel
  have hunnested : (bothApics 0x20).Unnested (shown 0x20 0x10000) := by
    refine ⟨fun u v hu hv hown hown' => ?_, fun u v hu hv hown hword => ?_⟩
    · obtain rfl := (hvectors hu).resolve_right fun heq => hforeign (heq ▸ hown)
      exact ((hvectors hv).resolve_right fun heq => hforeign (heq ▸ hown')).symm
    · rcases hvectors hu with rfl | rfl
      · decide
      · decide
  exact ⟨showsService_showing 0x20 0x10000, hunwritten, hunnested,
    (ApicController.namesDeliveries_iff (c := bothApics 0x20) (showsService_showing 0x20 0x10000)
      hunwritten).2.mpr hunnested⟩

/-- Inside the delivery of vector `0x25` the more urgent `0x31` is delivered: the APICs still name
line 5. And with the first vector at `0x28`, a vector `0x20` in service hides `0x30`, which is in
its word: no line is named. -/
theorem not_namesDeliveries_nested :
    ¬(bothApics 0x20).NamesDeliveries (shown 0x20020 0) (Unwritten 0x20020 0)
      ∧ ¬(bothApics 0x28).NamesDeliveries (shown 0x10001 0) (Unwritten 0x10001 0) := by
  constructor
  · intro h
    obtain ⟨s₁, -, hrun⟩ :=
      ApicController.currentIrq_eq (c := bothApics 0x20) (showsService_showing 0x20020 0) 0x31 rfl
    obtain ⟨s₂, -, hline⟩ := h.1 0x31 (by decide +kernel) (by decide +kernel) _ rfl
    rw [hrun] at hline
    -- 0x25 stands below 0x31 in the word, so the scan names its line for the newer delivery too
    have hfound : ((List.range' 0 serviceWords).findSome? fun i =>
        lineOfWord (bothApics 0x20).irqBase (bothApics 0x20).lines i (shown 0x20020 0 i))
          = some 5 := by decide +kernel
    rw [hfound] at hline
    cases hline
  · intro h
    obtain ⟨s₁, -, hrun⟩ :=
      ApicController.currentIrq_eq (c := bothApics 0x28) (showsService_showing 0x10001 0) 0x30 rfl
    -- 0x20 leads the word and lies below the base, which hides 0x30 above it
    have hfound : ((List.range' 0 serviceWords).findSome? fun i =>
        lineOfWord (bothApics 0x28).irqBase (bothApics 0x28).lines i (shown 0x10001 0 i))
          = none := by decide +kernel
    rw [hfound] at hrun
    exact h.2 0x30 _ s₁ rfl hrun 0x30 (by decide +kernel) (by decide +kernel)

end Sim.LineRig

end Interrupts
