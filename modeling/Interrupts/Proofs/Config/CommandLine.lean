import Interrupts.Proofs.Config.Choice

/-!
# The configuration of a command line

What the words choose is taken as it is when the ranges of the two 8259 chips lie apart; otherwise
both chips get their usual ranges. Every configuration that comes out is `IsSound`, and that is all
the rest of the kernel relies on.
-/

namespace Interrupts.Config

variable {c : Config} {ws : List (List Char)}

/-- The two chips have no vector in common. -/
def RangesApart (c : Config) : Prop :=
  c.masterBase.toNat + 8 ≤ c.slaveBase.toNat ∨ c.slaveBase.toNat + 8 ≤ c.masterBase.toNat

/-- **What holds of every configuration of a command line.** -/
structure IsSound (c : Config) : Prop where
  masterBase : IsVectorBase c.masterBase.toNat
  slaveBase : IsVectorBase c.slaveBase.toNat
  /-- The two chips share no vector. -/
  apart : c.RangesApart
  timerHz : 1 ≤ c.timerHz.toNat ∧ c.timerHz.toNat ≤ 10000
  smpSpins : 1 ≤ c.smpSpins.toNat
  ipiSpins : 1 ≤ c.ipiSpins.toNat

/-! ## Valid values -/

namespace Key

variable {key : Key} {v : key.Value}

/-- The values a field can be set to. -/
def IsValid : (key : Key) → key.Value → Prop
  | masterBase, v => IsVectorBase v.toNat
  | slaveBase, v => IsVectorBase v.toNat
  | forcePic, _ => True
  | timerHz, v => 1 ≤ v.toNat ∧ v.toNat ≤ 10000
  | smp, _ => True
  | smpSpins, v => 1 ≤ v.toNat
  | ipiSpins, v => 1 ≤ v.toNat
  | logLevel, _ => True

/-- What a text denotes for a key is valid for it. -/
theorem Denotes.isValid {text : List Char} (h : key.Denotes text v) : key.IsValid v := by
  cases key with
  | masterBase => exact h.2
  | slaveBase => exact h.2
  | timerHz => exact h.2
  | smpSpins => exact h.2
  | ipiSpins => exact h.2
  | forcePic => exact True.intro
  | smp => exact True.intro
  | logLevel => exact True.intro

/-- **Every default is valid itself.** -/
theorem isValid_default (key : Key) : key.IsValid (key.get {}) := by
  have hmaster : IsVectorBase (0x20 : UInt8).toNat := ⟨by decide, by decide, by decide⟩
  have hslave : IsVectorBase (0x28 : UInt8).toNat := ⟨by decide, by decide, by decide⟩
  cases key with
  | masterBase => exact hmaster
  | slaveBase => exact hslave
  | timerHz => exact ⟨by decide, by decide⟩
  | smpSpins => exact (by decide : 1 ≤ (2000000 : UInt32).toNat)
  | ipiSpins => exact (by decide : 1 ≤ (100000 : UInt32).toNat)
  | forcePic => exact True.intro
  | smp => exact True.intro
  | logLevel => exact True.intro

theorem Chosen.isValid (h : key.Chosen ws v) : key.IsValid v := by
  rcases h with ⟨_, _, _, _, ⟨_, _, hdenotes⟩, _⟩ | ⟨_, rfl⟩
  · exact hdenotes.isValid
  · exact isValid_default key

end Key

/-! ## The ranges of the chips -/

theorem separate_of_apart (h : c.RangesApart) : separate c = c := by
  unfold separate distance
  unfold RangesApart at h
  exact if_neg (by omega)

/-- Where the ranges of the two chips meet, both bases are given up. -/
theorem separate_of_not_apart (h : ¬c.RangesApart) :
    separate c = { c with masterBase := 0x20, slaveBase := 0x28 } := by
  unfold separate distance
  unfold RangesApart at h
  exact if_pos (by omega)

/-- Valid settings are sound when the ranges have been separated. -/
theorem isSound_separate (h : ∀ key : Key, key.IsValid (key.get c)) : (separate c).IsSound := by
  by_cases hapart : c.RangesApart
  · rw [separate_of_apart hapart]
    exact ⟨h .masterBase, h .slaveBase, hapart, h .timerHz, h .smpSpins, h .ipiSpins⟩
  · rw [separate_of_not_apart hapart]
    exact ⟨Key.isValid_default .masterBase, Key.isValid_default .slaveBase,
      .inl (Nat.le_refl 0x28), h .timerHz, h .smpSpins, h .ipiSpins⟩

/-- **A command line never makes the configuration unsound**, whatever it says. -/
theorem isSound_ofCommandLine (line : Option String) : (ofCommandLine line).IsSound := by
  cases line with
  | none => exact isSound_separate (c := {}) Key.isValid_default
  | some text => exact isSound_separate fun key => (Key.chosen_iff.mpr rfl).isValid

/-! ## Reading a command line -/

/-- **The last valid word decides, for each field by itself.** The words of a command line choose a
value for every field: that of the last word that sets it, or the default. The configuration has
the chosen values when these keep the ranges of the two chips apart, and with the usual ranges
otherwise. Only the words that set a field matter, and of these only the order among the words for
one field. And the configuration is always sound. -/
theorem ofCommandLine_chooses (text : String) :
    ∃ (ws : List (List Char)) (chosen : Config),
      (∀ ws', Text.IsWords text.toList ws' ↔ ws' = ws)
        ∧ (∀ (key : Key) (v : key.Value), key.Chosen ws v ↔ v = key.get chosen)
        ∧ (chosen.RangesApart → ofCommandLine (some text) = chosen)
        ∧ (¬chosen.RangesApart → ofCommandLine (some text)
          = { chosen with masterBase := 0x20, slaveBase := 0x28 })
        ∧ (∀ (text' : String) (ws' : List (List Char)), Text.IsWords text'.toList ws'
          → (∀ key : Key, ws'.filter key.IsSetBy = ws.filter key.IsSetBy)
          → ofCommandLine (some text') = ofCommandLine (some text))
        ∧ (ofCommandLine (some text)).IsSound := by
  refine ⟨Text.words text.toList, (Text.words text.toList).foldl absorb {}, fun _ =>
    Text.isWords_iff, fun _ _ => Key.chosen_iff, separate_of_apart, separate_of_not_apart, ?_,
    isSound_ofCommandLine (some text)⟩
  intro text' ws' hws' hsame
  rw [Text.isWords_iff] at hws'
  subst hws'
  exact congrArg separate (foldl_absorb_congr hsame {})

/-- An invalid value leaves the earlier one, and `smp.spins=` is another key than `smp=`. -/
example : ofCommandLine (some "smp=off smp.spins=0x10 smp=maybe irq.pic_slave=0x20")
    = { smp := false, smpSpins := 16 } := by
  decide +kernel

end Interrupts.Config
