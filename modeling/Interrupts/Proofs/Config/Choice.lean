import Interrupts.Config
import Interrupts.Proofs.Config.Numerals
import Interrupts.Proofs.Config.Words

/-!
# What a command line chooses

Every field of the configuration has a key, and a word of the command line sets the field of its
key when it carries a valid value. This module says what is valid, without saying how values are
read, and then that the words are read as they should be: the field of every key has the value of
the last word that sets it, or its default when there is none. So a line can be changed in any way
that keeps, for every key by itself, the words that set its field in their order.

The fields are one family: a key has a type of values, a way to read one, and a lens into the
configuration. What is proved of a key is proved of all of them, and only that the lenses of two
keys do not meet is a matter of going through the fields.
-/

namespace Interrupts.Config

/-! ## Keys and their values -/

/-- **What can be set on a command line.** -/
inductive Key where
  | masterBase
  | slaveBase
  | forcePic
  | timerHz
  | smp
  | smpSpins
  | ipiSpins
  | logLevel
  deriving DecidableEq

namespace Key

/-- The values of a key's field. -/
def Value : Key → Type
  | masterBase => UInt8
  | slaveBase => UInt8
  | forcePic => Bool
  | timerHz => UInt32
  | smp => Bool
  | smpSpins => UInt32
  | ipiSpins => UInt32
  | logLevel => Level

/-- How a word with this key begins. -/
def spelling : Key → String
  | masterBase => "irq.pic_master="
  | slaveBase => "irq.pic_slave="
  | forcePic => "irq.force_pic="
  | timerHz => "timer.hz="
  | smp => "smp="
  | smpSpins => "smp.spins="
  | ipiSpins => "apic.ipi_spins="
  | logLevel => "loglevel="

/-- The field of a key. -/
def get (c : Config) : (key : Key) → key.Value
  | masterBase => c.masterBase
  | slaveBase => c.slaveBase
  | forcePic => c.forcePic
  | timerHz => c.timerHz
  | smp => c.smp
  | smpSpins => c.smpSpins
  | ipiSpins => c.ipiSpins
  | logLevel => c.logLevel

/-- The configuration with another value in the field of a key. -/
def set (c : Config) : (key : Key) → key.Value → Config
  | masterBase, v => { c with masterBase := v }
  | slaveBase, v => { c with slaveBase := v }
  | forcePic, v => { c with forcePic := v }
  | timerHz, v => { c with timerHz := v }
  | smp, v => { c with smp := v }
  | smpSpins, v => { c with smpSpins := v }
  | ipiSpins, v => { c with ipiSpins := v }
  | logLevel, v => { c with logLevel := v }

end Key

/-- The first vector of a chip: a multiple of eight from `0x20` to `0xf8`. -/
def IsVectorBase (base : Nat) : Prop :=
  0x20 ≤ base ∧ base ≤ 0xf8 ∧ 8 ∣ base

/-- A switch is set by one of four words each way, the letters in either case. -/
def switchWords : Bool → List String
  | true => ["on", "true", "yes", "1"]
  | false => ["off", "false", "no", "0"]

/-- **A text is a valid value of a key**, and denotes this value of its field. -/
def Key.Denotes : (key : Key) → List Char → key.Value → Prop
  | masterBase, text, v => Number.IsNumeral text v.toNat ∧ IsVectorBase v.toNat
  | slaveBase, text, v => Number.IsNumeral text v.toNat ∧ IsVectorBase v.toNat
  | forcePic, text, v => ∃ word ∈ switchWords v, Text.sameLetters text word.toList = true
  | timerHz, text, v => Number.IsNumeral text v.toNat ∧ 1 ≤ v.toNat ∧ v.toNat ≤ 10000
  | smp, text, v => ∃ word ∈ switchWords v, Text.sameLetters text word.toList = true
  | smpSpins, text, v => Number.IsNumeral text v.toNat ∧ 1 ≤ v.toNat
  | ipiSpins, text, v => Number.IsNumeral text v.toNat ∧ 1 ≤ v.toNat
  | logLevel, text, v => ∃ word, (word, v) ∈ Level.spellings
    ∧ Text.sameLetters text word.toList = true

namespace Key

variable {key key' : Key} {word : List Char} {ws : List (List Char)} {c : Config}

/-- **A word sets a field** to a value: it has the key of the field, and a valid value. -/
def Sets (key : Key) (word : List Char) (v : key.Value) : Prop :=
  ∃ text, word = key.spelling.toList ++ text ∧ key.Denotes text v

/-- The last of the words that set a field sets it to this value. -/
def LastSets (key : Key) (ws : List (List Char)) (v : key.Value) : Prop :=
  ∃ before word after, ws = before ++ word :: after ∧ key.Sets word v
    ∧ ∀ word' ∈ after, ∀ v', ¬key.Sets word' v'

/-- **The value that the words choose for a field**: that of the last word that sets it, or the
default when no word does. -/
def Chosen (key : Key) (ws : List (List Char)) (v : key.Value) : Prop :=
  key.LastSets ws v ∨ (∀ word ∈ ws, ∀ v', ¬key.Sets word v') ∧ v = key.get {}

/-! ## Reading a value -/

/-- How the value of a key is read. -/
def value? : (key : Key) → List Char → Option key.Value
  | masterBase => vectorBase?
  | slaveBase => vectorBase?
  | forcePic => switch?
  | timerHz => rate?
  | smp => switch?
  | smpSpins => spins?
  | ipiSpins => spins?
  | logLevel => Level.ofName?

end Key

section Values

variable {text : List Char}

/-- A base is read from a numeral whose number is one: a multiple of 8 that fits in a byte and
leaves the exceptions alone. -/
theorem vectorBase?_eq_some {b : UInt8} :
    vectorBase? text = some b ↔ Number.IsNumeral text b.toNat ∧ IsVectorBase b.toNat := by
  unfold vectorBase? IsVectorBase
  rw [Option.bind_eq_some_iff]
  constructor
  · rintro ⟨n, hn, h⟩
    split at h
    case isFalse => cases h
    case isTrue hvalid =>
      cases h
      obtain ⟨hbyte, hlow, hmod⟩ := hvalid
      have hbyte : n.toNat < 256 := hbyte
      have hb : n.toUInt8.toNat = n.toNat := Nat.mod_eq_of_lt hbyte
      have hmod : n.toNat % 8 = 0 := congrArg UInt32.toNat hmod
      rw [hb]
      exact ⟨Number.parse?_eq_some.mp hn, hlow, by omega, Nat.dvd_of_mod_eq_zero hmod⟩
  · rintro ⟨hn, hlow, -, hdvd⟩
    have hb : b.toUInt32.toNat = b.toNat := rfl
    refine ⟨b.toUInt32, Number.parse?_eq_some.mpr hn, ?_⟩
    rw [if_pos ⟨b.toNat_lt, hlow, UInt32.toNat_inj.mp (Nat.mod_eq_zero_of_dvd hdvd)⟩,
      UInt8.toUInt8_toUInt32]

/-- A text that is spelled like two words shows that the words are spelled alike. -/
theorem sameLetters_of_common {a b : List Char} (ha : Text.sameLetters text a = true)
    (hb : Text.sameLetters text b = true) : Text.sameLetters a b = true :=
  beq_iff_eq.mpr ((beq_iff_eq.mp ha).symm.trans (beq_iff_eq.mp hb))

/-- A switch is read from one of the words for its position, in small or capital letters. -/
theorem switch?_eq_some {on : Bool} :
    switch? text = some on
      ↔ ∃ word ∈ switchWords on, Text.sameLetters text word.toList = true := by
  have hapart : ∀ yes ∈ switchWords true, ∀ no ∈ switchWords false,
      Text.sameLetters yes.toList no.toList = false := by decide
  unfold switch?
  rw [← List.any_eq_true]
  change (if (switchWords true).any _ then some true
    else if (switchWords false).any _ then some false else none) = some on ↔ _
  cases hyes : (switchWords true).any fun s => Text.sameLetters text s.toList with
  | true =>
    obtain ⟨yes, hmem, hsame⟩ := List.any_eq_true.mp hyes
    have hno : ((switchWords false).any fun s => Text.sameLetters text s.toList) = false := by
      refine List.any_eq_false.mpr fun no hno hsame' => ?_
      exact Bool.false_ne_true
        ((hapart yes hmem no hno).symm.trans (sameLetters_of_common hsame hsame'))
    cases on <;> simp [hyes, hno]
  | false => cases on <;> simp [hyes]

/-- A rate is read from a numeral between 1 and 10000. -/
theorem rate?_eq_some {hz : UInt32} :
    rate? text = some hz ↔ Number.IsNumeral text hz.toNat ∧ 1 ≤ hz.toNat ∧ hz.toNat ≤ 10000 := by
  unfold rate?
  rw [Option.filter_eq_some_iff, Number.parse?_eq_some, Bool.and_eq_true, decide_eq_true_iff,
    decide_eq_true_iff]
  rfl

/-- A budget is read from a numeral that is not 0. -/
theorem spins?_eq_some {n : UInt32} :
    spins? text = some n ↔ Number.IsNumeral text n.toNat ∧ 1 ≤ n.toNat := by
  unfold spins?
  rw [Option.filter_eq_some_iff, Number.parse?_eq_some, decide_eq_true_iff]
  rfl

/-- A level is read from one of its spellings, in small or capital letters. -/
theorem ofName?_eq_some {level : Level} :
    Level.ofName? text = some level ↔ ∃ word, (word, level) ∈ Level.spellings
      ∧ Text.sameLetters text word.toList = true := by
  have halike : ∀ a ∈ Level.spellings, ∀ b ∈ Level.spellings,
      Text.sameLetters a.1.toList b.1.toList = true → a.2 = b.2 := by decide
  unfold Level.ofName?
  rw [Option.map_eq_some_iff]
  constructor
  · rintro ⟨⟨word, _⟩, hfind, rfl⟩
    have hsame := List.find?_some hfind
    exact ⟨word, List.mem_of_find?_eq_some hfind, hsame⟩
  · rintro ⟨word, hmem, hsame⟩
    cases hfind : Level.spellings.find? fun s => Text.sameLetters text s.1.toList with
    | none => exact absurd hsame (List.find?_eq_none.mp hfind (word, level) hmem)
    | some found =>
      have hsame' := List.find?_some hfind
      exact ⟨found, rfl, halike found (List.mem_of_find?_eq_some hfind) (word, level) hmem
        (sameLetters_of_common hsame' hsame)⟩

end Values

namespace Key

variable {key key' : Key} {word text : List Char} {ws : List (List Char)} {v : key.Value}
  {c c' : Config}

/-- **Values are read as the text denotes them**, whatever the key. -/
theorem value?_eq_some : key.value? text = some v ↔ key.Denotes text v := by
  cases key with
  | masterBase => exact vectorBase?_eq_some
  | slaveBase => exact vectorBase?_eq_some
  | forcePic => exact switch?_eq_some
  | timerHz => exact rate?_eq_some
  | smp => exact switch?_eq_some
  | smpSpins => exact spins?_eq_some
  | ipiSpins => exact spins?_eq_some
  | logLevel => exact ofName?_eq_some

/-- The value that a word sets the field of a key to. -/
def setting? (key : Key) (word : List Char) : Option key.Value :=
  (Text.after? key.spelling.toList word).bind key.value?

/-- A word gives a key the value it spells out, and no other. -/
theorem setting?_eq_some : key.setting? word = some v ↔ key.Sets word v := by
  unfold setting? Sets
  rw [Option.bind_eq_some_iff]
  exact exists_congr fun text => and_congr Text.after?_eq_some value?_eq_some

theorem setting?_eq_none : key.setting? word = none ↔ ∀ v, ¬key.Sets word v := by
  rw [Option.eq_none_iff_forall_ne_some]
  exact forall_congr' fun v => not_congr setting?_eq_some

/-- A word that sets the field of a key, to whatever value. -/
def IsSetBy (key : Key) (word : List Char) : Prop :=
  ∃ v, key.Sets word v

instance decidableIsSetBy (key : Key) (word : List Char) : Decidable (key.IsSetBy word) :=
  decidable_of_iff ((key.setting? word).isSome = true)
    (Option.isSome_iff_exists.trans (exists_congr fun _ => setting?_eq_some))

/-! ## What one word does -/

theorem get_set (c : Config) (v : key.Value) : get (key.set c v) key = v := by
  cases key <;> rfl

theorem get_set_of_ne (c : Config) (v : key'.Value) (hne : key' ≠ key) :
    get (key'.set c v) key = get c key := by
  cases key' <;> cases key <;> first | rfl | exact absurd rfl hne

/-- A configuration is known by its fields. -/
theorem ext_get (h : ∀ key, get c key = get c' key) : c = c' := by
  cases c
  cases c'
  exact Config.mk.injEq .. ▸ ⟨h masterBase, h slaveBase, h forcePic, h timerHz, h smp, h smpSpins,
    h ipiSpins, h logLevel⟩

/-- No key is the beginning of another one: `smp=` and `smp.spins=` part at the fourth letter. -/
theorem eq_of_begins :
    ∀ {key key' : Key}, key.spelling.toList <+: key'.spelling.toList → key = key' := by
  intro key key'
  cases key <;> cases key' <;> decide

/-- So a word has at most one key, and the order in which the keys are tried does not matter. -/
theorem after?_eq_none (h : Text.after? key.spelling.toList word = some text) (hne : key' ≠ key) :
    Text.after? key'.spelling.toList word = none := by
  rw [Text.after?_eq_some] at h
  rw [Option.eq_none_iff_forall_ne_some]
  intro text' h'
  rw [Text.after?_eq_some] at h'
  have hkey : key.spelling.toList <+: word := ⟨text, h.symm⟩
  have hkey' : key'.spelling.toList <+: word := ⟨text', h'.symm⟩
  rcases List.prefix_or_prefix_of_prefix hkey hkey' with hbegins | hbegins
  · exact hne (eq_of_begins hbegins).symm
  · exact hne (eq_of_begins hbegins)

/-- The first key that a word has decides what it does. -/
theorem absorb_of_key (h : Text.after? key.spelling.toList word = some text) :
    absorb c word = setIf (key.value? text) (key.set c) c := by
  have hother {key' : Key} (hne : key' ≠ key) := after?_eq_none h hne
  have hmaster := @hother masterBase
  have hslave := @hother slaveBase
  have hforce := @hother forcePic
  have hrate := @hother timerHz
  have hspins := @hother smpSpins
  have hsmp := @hother smp
  have hipi := @hother ipiSpins
  dsimp only [spelling] at hmaster hslave hforce hrate hspins hsmp hipi
  unfold absorb
  cases key <;> dsimp only [spelling] at h <;>
    simp only [h, hmaster, hslave, hforce, hrate, hspins, hsmp, hipi, ne_eq, reduceCtorEq,
      not_false_eq_true] <;> rfl

/-- A word that begins like no key changes nothing. -/
theorem absorb_of_none (h : ∀ key : Key, Text.after? key.spelling.toList word = none) :
    absorb c word = c := by
  have hmaster := h masterBase
  have hslave := h slaveBase
  have hforce := h forcePic
  have hrate := h timerHz
  have hspins := h smpSpins
  have hsmp := h smp
  have hipi := h ipiSpins
  have hlevel := h logLevel
  dsimp only [spelling] at hmaster hslave hforce hrate hspins hsmp hipi hlevel
  unfold absorb
  simp only [hmaster, hslave, hforce, hrate, hspins, hsmp, hipi, hlevel]

/-- **A word sets the one setting that it is a valid value for**, and leaves all others alone. -/
theorem get_absorb (c : Config) (word : List Char) :
    get (absorb c word) key = (key.setting? word).getD (get c key) := by
  by_cases hkey : ∃ key' : Key, ∃ text, Text.after? key'.spelling.toList word = some text
  · obtain ⟨key', text, htext⟩ := hkey
    rw [absorb_of_key htext]
    -- The word begins like one key only, and is looked at for this key alone.
    by_cases hsame : key' = key
    · subst hsame
      unfold setting? setIf
      rw [htext, Option.bind_some]
      cases key'.value? text with
      | none => rfl
      | some v => exact get_set c v
    · unfold setting? setIf
      rw [after?_eq_none htext (Ne.symm hsame)]
      cases key'.value? text with
      | none => rfl
      | some v => exact get_set_of_ne c v hsame
  · have hnone : ∀ key' : Key, Text.after? key'.spelling.toList word = none := fun key' =>
      Option.eq_none_iff_forall_ne_some.mpr fun text htext => hkey ⟨key', text, htext⟩
    unfold setting?
    rw [absorb_of_none hnone, hnone key]
    rfl

/-! ## What all words do -/

/-- **The last value that was set** is what a field has in the end. -/
theorem get_foldl_absorb (ws : List (List Char)) (c : Config) :
    get (ws.foldl absorb c) key = (ws.filterMap key.setting?).getLast?.getD (get c key) := by
  induction ws generalizing c with
  | nil => rfl
  | cons word ws ih =>
    rw [List.foldl_cons, ih, get_absorb]
    cases h : key.setting? word with
    | none => rw [List.filterMap_cons_none h, Option.getD_none]
    | some v =>
      rw [List.filterMap_cons_some h, List.getLast?_cons, Option.getD_some, Option.getD_some]

theorem lastSets_nil : ¬key.LastSets [] v := by
  rintro ⟨before, word, after, h, -⟩
  exact List.append_ne_nil_of_right_ne_nil before (List.cons_ne_nil word after) h.symm

/-- The last word that sets a key is one of the later ones, or else the first. -/
theorem lastSets_cons : key.LastSets (word :: ws) v
    ↔ key.LastSets ws v ∨ key.Sets word v ∧ ∀ word' ∈ ws, ∀ v', ¬key.Sets word' v' := by
  constructor
  · rintro ⟨_ | ⟨first, before⟩, word', after, h, hsets, hafter⟩
    · obtain ⟨rfl, rfl⟩ := List.cons.inj h
      exact .inr ⟨hsets, hafter⟩
    · obtain ⟨rfl, rfl⟩ := List.cons.inj h
      exact .inl ⟨before, word', after, rfl, hsets, hafter⟩
  · rintro (⟨before, word', after, rfl, hsets, hafter⟩ | ⟨hsets, hafter⟩)
    · exact ⟨word :: before, word', after, rfl, hsets, hafter⟩
    · exact ⟨[], word, ws, rfl, hsets, hafter⟩

theorem filterMap_setting?_eq_nil :
    ws.filterMap key.setting? = [] ↔ ∀ word ∈ ws, ∀ v, ¬key.Sets word v := by
  rw [List.filterMap_eq_nil_iff]
  exact forall₂_congr fun _ _ => setting?_eq_none

/-- The last word that sets a key is the last of those that are read for it. -/
theorem lastSets_iff : key.LastSets ws v ↔ (ws.filterMap key.setting?).getLast? = some v := by
  induction ws with
  | nil => exact ⟨fun h => absurd h lastSets_nil, fun h => (nomatch h)⟩
  | cons word ws ih =>
    rw [lastSets_cons, ih, ← setting?_eq_some, ← filterMap_setting?_eq_nil]
    cases h : key.setting? word with
    | none =>
      rw [List.filterMap_cons_none h]
      exact or_iff_left fun hsets => (nomatch hsets.1)
    | some u =>
      rw [List.filterMap_cons_some h, List.getLast?_cons]
      cases List.eq_nil_or_concat (ws.filterMap key.setting?) with
      | inl hnil => simp [hnil]
      | inr hlast =>
        obtain ⟨firsts, last, hlast⟩ := hlast
        simp [hlast]

/-- **A field ends up with the value that the words choose for it.** -/
theorem chosen_iff : key.Chosen ws v ↔ v = get (ws.foldl absorb {}) key := by
  unfold Chosen
  rw [get_foldl_absorb, lastSets_iff, ← filterMap_setting?_eq_nil]
  cases hlast : (ws.filterMap key.setting?).getLast? with
  | none =>
    rw [List.getLast?_eq_none_iff] at hlast
    simp [hlast]
  | some last =>
    have hne : ws.filterMap key.setting? ≠ [] := fun hnil => by
      rw [hnil] at hlast
      cases hlast
    simp [hne, eq_comm]

/-- The words that do not set a field do not matter for it. -/
theorem filterMap_setting?_filter (ws : List (List Char)) :
    (ws.filter key.IsSetBy).filterMap key.setting? = ws.filterMap key.setting? := by
  rw [List.filterMap_filter]
  refine List.filterMap_congr fun word _ => ?_
  by_cases hset : key.IsSetBy word
  · simp [hset]
  · have hnone : key.setting? word = none :=
      setting?_eq_none.mpr fun v hv => hset ⟨v, hv⟩
    simp [hset, hnone]

end Key

/-- **Only the words of each key count**, and those of different keys can be mixed in any way. -/
theorem foldl_absorb_congr {ws ws' : List (List Char)}
    (h : ∀ key : Key, ws'.filter key.IsSetBy = ws.filter key.IsSetBy) (c : Config) :
    ws'.foldl absorb c = ws.foldl absorb c := by
  refine Key.ext_get fun key => ?_
  rw [Key.get_foldl_absorb, Key.get_foldl_absorb, ← Key.filterMap_setting?_filter ws', h key,
    Key.filterMap_setting?_filter]

end Interrupts.Config
