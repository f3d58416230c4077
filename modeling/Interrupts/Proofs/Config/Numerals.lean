import Interrupts.Config.Number
import Mathlib.Data.List.Forall2

/-!
# What numerals denote

`parse?` reads a number digit by digit and gives up as soon as 32 bits do not hold it. `IsNumeral`
says the same of the whole text at once: its digits, the underscores left out, are those of a
number that fits. So no text is refused because of what an intermediate result would have been, and
none is read as a number that it does not denote.
-/

namespace Interrupts.Number

variable {base acc n : Nat} {cs text : List Char} {ds : List Nat}

/-- **The digits of a text**, the underscores left out. -/
def HasDigits (base : Nat) (cs : List Char) (ds : List Nat) : Prop :=
  List.Forall₂ (fun c d => digit? base c = some d) (cs.filter (· != '_')) ds

/-- The number with these digits, behind those of `acc`. -/
def valueFrom (base acc : Nat) (ds : List Nat) : Nat :=
  ds.foldl (fun n d => n * base + d) acc

/-- **A text denotes a number**: behind the mark of its base there is at least one digit, and the
number with these digits fits 32 bits. -/
def IsNumeral (text : List Char) (n : Nat) : Prop :=
  ∃ ds, HasDigits (split text).1 (split text).2 ds ∧ ds ≠ []
    ∧ n = valueFrom (split text).1 0 ds ∧ n < UInt32.size

/-! ## Reading the digits -/

/-- Numbers of 32 bits fit. -/
theorem fit?_eq_some {m : Nat} : fit? m = some n ↔ m = n ∧ n < UInt32.size := by
  unfold fit?
  split
  case isTrue h => exact ⟨fun he => (Option.some.inj he) ▸ ⟨rfl, h⟩, fun he => he.1 ▸ rfl⟩
  case isFalse h => exact ⟨fun he => (nomatch he), fun he => absurd (he.1 ▸ he.2) h⟩

/-- More digits do not make a number smaller. -/
theorem le_valueFrom (hbase : 0 < base) (acc : Nat) (ds : List Nat) :
    acc ≤ valueFrom base acc ds := by
  induction ds generalizing acc with
  | nil => exact Nat.le_refl acc
  | cons d ds ih =>
    calc
      acc ≤ acc * base := Nat.le_mul_of_pos_right acc hbase
      _ ≤ acc * base + d := Nat.le_add_right _ _
      _ ≤ valueFrom base acc (d :: ds) := ih _

/-- Since a number only grows, reading stops early for the ones that do not fit in the end. -/
theorem digits?_eq_some (hbase : 0 < base) (hacc : acc < UInt32.size) :
    digits? base acc cs = some n
      ↔ ∃ ds, HasDigits base cs ds ∧ n = valueFrom base acc ds ∧ n < UInt32.size := by
  induction cs generalizing acc with
  | nil =>
    constructor
    · rintro ⟨⟩
      exact ⟨[], .nil, rfl, hacc⟩
    · rintro ⟨ds, hds, rfl, -⟩
      cases hds
      rfl
  | cons c cs ih =>
    unfold digits? HasDigits
    by_cases hc : c = '_'
    · rw [if_pos hc, ih hacc, List.filter_cons_of_neg (by simp [hc])]
      rfl
    · rw [if_neg hc, List.filter_cons_of_pos (by simpa using hc)]
      constructor
      · intro h
        -- The reader goes on only as long as the number so far fits, both when it is scaled and
        -- when the digit is added.
        obtain ⟨scaled, hscaled, h⟩ := Option.bind_eq_some_iff.mp h
        obtain ⟨d, hd, h⟩ := Option.bind_eq_some_iff.mp h
        obtain ⟨next, hnext, h⟩ := Option.bind_eq_some_iff.mp h
        obtain ⟨rfl, -⟩ := fit?_eq_some.mp hscaled
        obtain ⟨rfl, hfits⟩ := fit?_eq_some.mp hnext
        obtain ⟨ds, hds, hn⟩ := (ih hfits).mp h
        exact ⟨d :: ds, .cons hd hds, hn⟩
      · rintro ⟨ds, hds, rfl, hfits⟩
        cases hds with
        | @cons _ d _ ds hd hds =>
          -- Conversely, the value only grows with further digits, so one that fits in the end never
          -- stopped fitting.
          have hnext : acc * base + d < UInt32.size :=
            Nat.lt_of_le_of_lt (le_valueFrom hbase _ ds) hfits
          have hscaled : acc * base < UInt32.size :=
            Nat.lt_of_le_of_lt (Nat.le_add_right _ d) hnext
          refine Option.bind_eq_some_iff.mpr ⟨_, fit?_eq_some.mpr ⟨rfl, hscaled⟩, ?_⟩
          refine Option.bind_eq_some_iff.mpr ⟨d, hd, ?_⟩
          refine Option.bind_eq_some_iff.mpr ⟨_, fit?_eq_some.mpr ⟨rfl, hnext⟩, ?_⟩
          exact (ih hnext).mpr ⟨ds, hds, rfl, hfits⟩

/-- There is a digit unless there are only underscores. -/
theorem HasDigits.ne_nil (hds : HasDigits base cs ds) : ds ≠ [] ↔ cs.all (· == '_') = false := by
  have hlength := List.Forall₂.length_eq hds
  rw [← List.length_pos_iff_ne_nil, ← hlength, List.length_filter_pos_iff, Bool.eq_false_iff,
    ne_eq, List.all_eq_true]
  simp

theorem split_base_pos (text : List Char) : 0 < (split text).1 := by
  unfold split
  split <;> exact Nat.succ_pos _

/-- **A number is read exactly from the texts that denote it.** -/
theorem parse?_eq_some {v : UInt32} : parse? text = some v ↔ IsNumeral text v.toNat := by
  unfold parse? IsNumeral
  have hbase := split_base_pos text
  generalize split text = parts at hbase ⊢
  obtain ⟨base, digits⟩ := parts
  dsimp only at hbase ⊢
  by_cases hall : digits.all (· == '_') = true
  · rw [if_pos hall]
    refine ⟨fun h => (nomatch h), fun ⟨ds, hds, hne, _⟩ => ?_⟩
    rw [hds.ne_nil.mp hne] at hall
    cases hall
  · rw [if_neg hall, Option.map_eq_some_iff]
    constructor
    · rintro ⟨n, h, rfl⟩
      obtain ⟨ds, hds, hn, hfits⟩ := (digits?_eq_some hbase (by decide)).mp h
      rw [UInt32.toNat_ofNat_of_lt' hfits]
      exact ⟨ds, hds, hds.ne_nil.mpr (Bool.eq_false_iff.mpr hall), hn, hfits⟩
    · rintro ⟨ds, hds, -, hn, hfits⟩
      exact ⟨v.toNat, (digits?_eq_some hbase (by decide)).mpr ⟨ds, hds, hn, hfits⟩,
        UInt32.ofNat_toNat⟩

end Interrupts.Number
