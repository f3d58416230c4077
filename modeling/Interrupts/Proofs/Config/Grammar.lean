import Mathlib.Data.Nat.Digits.Defs
import Interrupts.Proofs.Config.Numerals

/-!
# The grammar of numbers

A number of the command line is a mark of its base, which decimal does without, and behind it digits
of this base with underscores anywhere among them. `Writes` says which number a text is in this
way, however large, and does not look at how texts are read.

Reading turns out to accept exactly the texts of numbers that fit 32 bits, and to answer these
numbers. The two views meet in `IsNumeral`, since the digits that are read one by one are the ones
of the grammar, and the number that is summed up from the left is the one its digits denote.
-/

namespace Interrupts.Number

variable {base n : Nat} {c : Char} {d k : Nat} {cs body text : List Char} {ds : List Nat}

/-! ## Digits -/

/-- **A character is a digit of a base**, and this is its value. Letters count in either case. -/
def IsDigit (base : Nat) (c : Char) (d : Nat) : Prop :=
  d < base ∧ (c = d.digitChar ∨ c = d.digitChar.toUpper)

instance (base : Nat) (c : Char) (d : Nat) : Decidable (IsDigit base c d) :=
  inferInstanceAs (Decidable (_ ∧ (_ ∨ _)))

/-- The bases in use. -/
def IsBase (base : Nat) : Prop :=
  base = 10 ∨ base = 16

/-- What is read as a digit is an ASCII character. -/
theorem toNat_lt_of_digit? (h : digit? base c = some d) : c.toNat < 128 := by
  have hnine : '9'.toNat < 128 := by decide
  have hsmall : 'f'.toNat < 128 := by decide
  have hcapital : 'F'.toNat < 128 := by decide
  unfold digit? at h
  dsimp only at h
  split at h
  case isTrue hc => exact Nat.lt_of_le_of_lt hc.2 hnine
  split at h
  case isTrue hc => exact Nat.lt_of_le_of_lt hc.2.2 hsmall
  split at h
  case isTrue hc => exact Nat.lt_of_le_of_lt hc.2.2 hcapital
  cases h

/-- **Digits are read as what they are**, and nothing else is read as a digit. -/
theorem digit?_eq_some (hbase : IsBase base) : digit? base c = some d ↔ IsDigit base c d := by
  -- Both ways there are finitely many cases: 128 characters, or the digits of a base.
  constructor
  · intro h
    have hten : ∀ n < 128, ∀ d ∈ digit? 10 (Char.ofNat n), IsDigit 10 (Char.ofNat n) d := by
      decide +kernel
    have hsixteen : ∀ n < 128, ∀ d ∈ digit? 16 (Char.ofNat n), IsDigit 16 (Char.ofNat n) d := by
      decide +kernel
    have hascii := toNat_lt_of_digit? h
    rw [← Char.ofNat_toNat c] at h ⊢
    rcases hbase with rfl | rfl
    · exact hten c.toNat hascii d h
    · exact hsixteen c.toNat hascii d h
  · rintro ⟨hd, hc⟩
    have hten : ∀ d < 10,
        digit? 10 d.digitChar = some d ∧ digit? 10 d.digitChar.toUpper = some d := by
      decide
    have hsixteen : ∀ d < 16,
        digit? 16 d.digitChar = some d ∧ digit? 16 d.digitChar.toUpper = some d := by
      decide
    have hboth : digit? base d.digitChar = some d ∧ digit? base d.digitChar.toUpper = some d := by
      rcases hbase with rfl | rfl
      · exact hten d hd
      · exact hsixteen d hd
    rcases hc with rfl | rfl
    · exact hboth.1
    · exact hboth.2

/-- Underscores are no digits. -/
theorem ne_underscore_of_isDigit (h : IsDigit base c d) (hbase : IsBase base) : c ≠ '_' := by
  rintro rfl
  rw [← digit?_eq_some hbase] at h
  rcases hbase with rfl | rfl <;> cases h

/-! ## Texts -/

/-- **Digits and underscores**, in any order, and the values of the digits. -/
inductive Spells (base : Nat) : List Char → List Nat → Prop
  | nil : Spells base [] []
  /-- An underscore stands anywhere and means nothing. -/
  | underscore {cs : List Char} {ds : List Nat} (hcs : Spells base cs ds) :
    Spells base ('_' :: cs) ds
  /-- A digit of the base, in front of the others. -/
  | digit {c : Char} {d : Nat} {cs : List Char} {ds : List Nat} (hc : IsDigit base c d)
    (hcs : Spells base cs ds) : Spells base (c :: cs) (d :: ds)

/-- The marks of the bases. Decimal has the empty one. -/
def marks : List (List Char × Nat) :=
  [([], 10), (['0', 'x'], 16), (['0', 'X'], 16)]

/-- **A text is written as a number**, which may have any size: a mark, and then digits and
underscores, with a digit at least. -/
def Writes (text : List Char) (n : Nat) : Prop :=
  ∃ mark base body ds, (mark, base) ∈ marks ∧ text = mark ++ body ∧ Spells base body ds ∧ ds ≠ []
    ∧ n = Nat.ofDigits base ds.reverse

/-- **The grammar of digits is what the reader goes by**: underscores are passed over, and the rest
are digits of the base. -/
theorem spells_iff (hbase : IsBase base) : Spells base cs ds ↔ HasDigits base cs ds := by
  unfold HasDigits
  constructor
  · intro h
    induction h with
    | nil => exact .nil
    | underscore _ ih => exact ih
    | @digit c d cs ds hc _ ih =>
      rw [List.filter_cons_of_pos (by simpa using ne_underscore_of_isDigit hc hbase)]
      exact .cons ((digit?_eq_some hbase).mpr hc) ih
  · intro h
    induction cs generalizing ds with
    | nil =>
      cases h
      exact .nil
    | cons c cs ih =>
      by_cases hc : c = '_'
      · subst hc
        exact .underscore (ih h)
      · rw [List.filter_cons_of_pos (by simpa using hc)] at h
        cases h with
        | cons hd hds => exact .digit ((digit?_eq_some hbase).mp hd) (ih hds)

/-- The number that is summed up from the left is the one the digits denote. -/
theorem valueFrom_zero (base : Nat) (ds : List Nat) :
    valueFrom base 0 ds = Nat.ofDigits base ds.reverse := by
  rw [Nat.ofDigits_eq_foldr, List.foldr_reverse, valueFrom]
  congr 1
  funext n d
  rw [Nat.mul_comm, Nat.add_comm]
  rfl

theorem isBase_of_mem_marks {mark : List Char} (h : (mark, base) ∈ marks) : IsBase base := by
  simp only [marks, List.mem_cons, Prod.mk.injEq, List.not_mem_nil, or_false] at h
  unfold IsBase
  omega

/-- Whatever mark a text begins with, its base is one of the four. -/
theorem isBase_split (text : List Char) : IsBase (split text).1 := by
  unfold split
  split
  · exact .inr rfl
  · exact .inr rfl
  · exact .inl rfl

/-- There is nothing else among the digits. -/
theorem Spells.mem (h : Spells base cs ds) : ∀ c ∈ cs, c = '_' ∨ ∃ d, IsDigit base c d := by
  induction h with
  | nil => exact fun c hc => absurd hc List.not_mem_nil
  | underscore _ ih => exact List.forall_mem_cons.mpr ⟨.inl rfl, ih⟩
  | digit hc _ ih => exact List.forall_mem_cons.mpr ⟨.inr ⟨_, hc⟩, ih⟩

/-- The digits of a decimal number do not look like a mark. -/
theorem Spells.not_mem_ten (h : Spells 10 cs ds) : 'x' ∉ cs ∧ 'X' ∉ cs := by
  have hten : IsBase 10 := .inl rfl
  constructor
  · intro hx
    obtain hx | ⟨d, hd⟩ := h.mem 'x' hx
    · exact absurd hx (by decide)
    · exact nomatch (digit?_eq_some hten).mpr hd
  · intro hx
    obtain hx | ⟨d, hd⟩ := h.mem 'X' hx
    · exact absurd hx (by decide)
    · exact nomatch (digit?_eq_some hten).mpr hd

/-- A text is cut behind its mark. -/
theorem split_append {mark : List Char} (hmark : (mark, base) ∈ marks)
    (hbody : Spells base body ds) : split (mark ++ body) = (base, body) := by
  simp only [marks, List.mem_cons, Prod.mk.injEq, List.not_mem_nil, or_false] at hmark
  rcases hmark with ⟨rfl, rfl⟩ | ⟨rfl, rfl⟩ | ⟨rfl, rfl⟩
  · obtain ⟨hsmall, hcapital⟩ := hbody.not_mem_ten
    unfold split
    split
    case h_1 digits hdigits =>
      have hdigits : body = '0' :: 'x' :: digits := hdigits
      exact absurd (by simp [hdigits]) hsmall
    case h_2 digits hdigits =>
      have hdigits : body = '0' :: 'X' :: digits := hdigits
      exact absurd (by simp [hdigits]) hcapital
    case h_3 => rfl
  · rfl
  · rfl

/-- A text is a mark and what is left of it when the mark is taken off. -/
theorem exists_mark (text : List Char) :
    ∃ mark, (mark, (split text).1) ∈ marks ∧ text = mark ++ (split text).2 := by
  unfold split
  split
  · exact ⟨['0', 'x'], by simp [marks], rfl⟩
  · exact ⟨['0', 'X'], by simp [marks], rfl⟩
  · exact ⟨[], by simp [marks], rfl⟩

/-- **The grammar, read along the cut.** -/
theorem writes_iff : Writes text n ↔ ∃ ds, HasDigits (split text).1 (split text).2 ds ∧ ds ≠ []
    ∧ n = valueFrom (split text).1 0 ds := by
  constructor
  · rintro ⟨mark, base, body, ds, hmark, rfl, hbody, hne, rfl⟩
    rw [split_append hmark hbody]
    exact ⟨ds, (spells_iff (isBase_of_mem_marks hmark)).mp hbody, hne,
      (valueFrom_zero base ds).symm⟩
  · rintro ⟨ds, hds, hne, rfl⟩
    obtain ⟨mark, hmark, htext⟩ := exists_mark text
    exact ⟨mark, _, _, ds, hmark, htext, (spells_iff (isBase_split text)).mpr hds, hne,
      valueFrom_zero _ ds⟩

/-- The numerals that are read are those that write a number of 32 bits. -/
theorem isNumeral_iff : IsNumeral text n ↔ Writes text n ∧ n < UInt32.size := by
  rw [writes_iff]
  constructor
  · rintro ⟨ds, hds, hne, hn, hfits⟩
    exact ⟨⟨ds, hds, hne, hn⟩, hfits⟩
  · rintro ⟨⟨ds, hds, hne, hn⟩, hfits⟩
    exact ⟨ds, hds, hne, hn, hfits⟩

theorem hasDigits_unique {ds' : List Nat} (h : HasDigits base cs ds) (h' : HasDigits base cs ds') :
    ds = ds' :=
  List.right_unique_forall₂' (fun _ _ _ hd hd' => Option.some.inj (hd.symm.trans hd')) h h'

/-- A text is written as one number at most. -/
theorem Writes.unique {n n' : Nat} (h : Writes text n) (h' : Writes text n') : n = n' := by
  obtain ⟨ds, hds, -, rfl⟩ := writes_iff.mp h
  obtain ⟨ds', hds', -, rfl⟩ := writes_iff.mp h'
  rw [hasDigits_unique hds hds']

/-- The characters that numbers are written with. -/
def alphabet : List Char :=
  "0123456789abcdefABCDEF_xX".toList

/-- A text that writes a number has no other characters than marks, digits and underscores have. -/
theorem Writes.mem_alphabet (h : Writes text n) (hc : c ∈ text) : c ∈ alphabet := by
  obtain ⟨mark, base, body, ds, hmark, rfl, hbody, -, -⟩ := h
  rcases List.mem_append.mp hc with hc | hc
  · have hmarks : ∀ m ∈ marks, m.1.all (· ∈ alphabet) = true := by decide +kernel
    exact of_decide_eq_true (List.all_eq_true.mp (hmarks _ hmark) c hc)
  · obtain rfl | ⟨d, hd, hchar⟩ := hbody.mem c hc
    · decide +kernel
    · have hdigits : ∀ d < 16, d.digitChar ∈ alphabet ∧ d.digitChar.toUpper ∈ alphabet := by
        decide +kernel
      have hbase := isBase_of_mem_marks hmark
      unfold IsBase at hbase
      obtain ⟨hsmall, hcapital⟩ := hdigits d (by omega)
      rcases hchar with rfl | rfl
      · exact hsmall
      · exact hcapital

/-- Leading zeros are digits. -/
theorem Spells.zeros (h : Spells base body ds) (hbase : 0 < base) (k : Nat) :
    Spells base (List.replicate k '0' ++ body) (List.replicate k 0 ++ ds) := by
  induction k with
  | zero => exact h
  | succ k ih => exact .digit ⟨hbase, .inl rfl⟩ ih

/-- **Leading zeros do not change the number.** -/
theorem Writes.zeros {mark : List Char} (hmark : (mark, base) ∈ marks) (hbody : Spells base body ds)
    (hne : ds ≠ []) (k : Nat) :
    Writes (mark ++ (List.replicate k '0' ++ body)) (Nat.ofDigits base ds.reverse) := by
  have hbase := isBase_of_mem_marks hmark
  unfold IsBase at hbase
  refine ⟨mark, base, _, _, hmark, rfl, hbody.zeros (by omega) k,
    List.append_ne_nil_of_right_ne_nil _ hne, ?_⟩
  rw [List.reverse_append, List.reverse_replicate, Nat.ofDigits_append_replicate_zero]

theorem spells_underscores (base k : Nat) : Spells base (List.replicate k '_') [] := by
  induction k with
  | zero => exact .nil
  | succ k ih => exact .underscore ih

/-- Without a digit there is no number. -/
theorem not_writes_of_spells_nil {mark : List Char} (hmark : (mark, base) ∈ marks)
    (hbody : Spells base body []) : ¬Writes (mark ++ body) n := by
  intro h
  obtain ⟨ds, hds, hne, -⟩ := writes_iff.mp h
  rw [split_append hmark hbody] at hds
  exact hne (hasDigits_unique hds ((spells_iff (isBase_of_mem_marks hmark)).mp hbody))

/-! ## Reading -/

theorem parse?_eq_some_iff {v : UInt32} : parse? text = some v ↔ Writes text v.toNat := by
  rw [parse?_eq_some, isNumeral_iff]
  exact and_iff_left v.toNat_lt

/-- **A text is refused** if it is not written as a number that fits. -/
theorem parse?_eq_none : parse? text = none ↔ ∀ n, Writes text n → UInt32.size ≤ n := by
  rw [Option.eq_none_iff_forall_ne_some]
  constructor
  · intro h n hn
    by_contra hlt
    have hfits : n < UInt32.size := Nat.lt_of_not_le hlt
    refine h (UInt32.ofNat n) (parse?_eq_some_iff.mpr ?_)
    rwa [UInt32.toNat_ofNat_of_lt' hfits]
  · intro h v hv
    exact absurd (h v.toNat (parse?_eq_some_iff.mp hv)) (Nat.not_le_of_lt v.toNat_lt)

/-- **Numbers are read exactly from the texts that write them.** A text is read as a number of 32
bits just when it is written as this number, and it is refused just when it is not written as a
number at all or only as one that does not fit, so that no number ever wraps. A text is written as
one number at most. In particular a text is refused that has no digit behind its mark, or a
character that no number is written with, such as a sign, or digits of a number that does not fit,
behind any number of leading zeros. -/
theorem numbers_readExactly (text : List Char) :
    (∀ v : UInt32, parse? text = some v ↔ Writes text v.toNat)
      ∧ (parse? text = none ↔ ∀ n, Writes text n → 2 ^ 32 ≤ n)
      ∧ (∀ n n', Writes text n → Writes text n' → n = n')
      ∧ (∀ mark base k, (mark, base) ∈ marks → text = mark ++ List.replicate k '_' →
        parse? text = none)
      ∧ (∀ c ∈ text, c ∉ alphabet → parse? text = none)
      ∧ ∀ mark base k body ds, (mark, base) ∈ marks →
        text = mark ++ (List.replicate k '0' ++ body) → Spells base body ds →
        2 ^ 32 ≤ Nat.ofDigits base ds.reverse → parse? text = none := by
  have hrefused (h : ∀ n, ¬Writes text n) : parse? text = none :=
    parse?_eq_none.mpr fun n hn => absurd hn (h n)
  refine ⟨fun v => parse?_eq_some_iff, parse?_eq_none, fun n n' => Writes.unique, ?_, ?_, ?_⟩
  · rintro mark base k hmark rfl
    exact hrefused fun n => not_writes_of_spells_nil hmark (spells_underscores base k)
  · exact fun c hc hforeign => hrefused fun n h => hforeign (h.mem_alphabet hc)
  · rintro mark base k body ds hmark rfl hbody hlarge
    have hne : ds ≠ [] := by
      rintro rfl
      rw [List.reverse_nil, Nat.ofDigits_nil] at hlarge
      exact absurd hlarge (by decide)
    refine parse?_eq_none.mpr fun n hn => ?_
    rw [hn.unique (Writes.zeros hmark hbody hne k)]
    exact hlarge

/-- Underscores may stand in front of the digits and behind them. -/
example : parse? "0X_fF__".toList = some 255 ∧ parse? "4294967296".toList = none
    ∧ parse? "0x_".toList = none ∧ parse? "+1".toList = none := by
  decide +kernel

end Interrupts.Number
