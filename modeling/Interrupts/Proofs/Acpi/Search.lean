import Mathlib.Data.List.Find
import Interrupts.Acpi.Platform
import Interrupts.Proofs.Acpi.Walk

/-!
# Searches with a cursor

A driver reads the table through searches: each asks for the next entry of some type that is long
enough, and moves the cursor. A search and the list of all entries walk over the table each on its
own; they visit the same places. So of the searches that share a cursor each finds the first entry
that it wants among those that the cursor has not passed, and equal searches find, one after the
other, every entry wanted.

A cursor is only a number, and may come from anywhere. Even then a search goes forward, stays in the
table, and answers nothing but an entry that lies there.
-/

namespace Interrupts.Acpi

/-- **What a search asks for.** -/
structure Query where
  entryType : UInt8
  minLength : Nat
  deriving DecidableEq, Repr

/-- An entry of the type and of the least length asked for. -/
def Query.wants (q : Query) (r : RawEntry) : Bool :=
  r.entryType = q.entryType ∧ q.minLength ≤ r.length

namespace MadtPlatform

/-- The answer to a query. -/
def ask (p : MadtPlatform) (q : Query) (cursor : Cursor) : Option MadtEntry × Cursor :=
  p.search q.entryType q.minLength cursor

/-- **The answers to queries that share a cursor**, and the cursor after them. -/
def askAll (p : MadtPlatform) : List Query → Cursor → List (Option MadtEntry) × Cursor
  | [], cursor => ([], cursor)
  | q :: qs, cursor =>
    let first := p.ask q cursor
    let rest := p.askAll qs first.2
    (first.1 :: rest.1, rest.2)

end MadtPlatform

namespace Madt

variable {t : Madt} {q : Query} {offset : Nat} {r : RawEntry}

/-- **The answer that points out an entry**, or the end of the walk when there is none. -/
def answer (t : Madt) (r? : Option RawEntry) (stop : Nat) : Option MadtEntry × Cursor :=
  (r?.map t.parseEntry, ⟨(r?.map RawEntry.stop).getD stop⟩)

/-! ## One search -/

/-- A search ends where no entry can be read. -/
theorem search_of_none (h : t.rawEntryAt offset = none) :
    t.search q.entryType q.minLength offset = (none, offset) := by
  rw [search]
  split
  next => rfl
  next r hr => cases h.symm.trans hr

/-- A search looks at the entry it is at, and goes on behind it. -/
theorem search_of_some (h : t.rawEntryAt offset = some r) :
    t.search q.entryType q.minLength offset
      = if q.wants r then (some (t.parseEntry r), r.stop)
        else t.search q.entryType q.minLength r.stop := by
  rw [search]
  split
  next hnone => cases h.symm.trans hnone
  next r' hr' =>
    cases h.symm.trans hr'
    simp only [Query.wants, decide_eq_true_eq]

/-- **A search finds the first entry wanted** on the walk from the cursor. -/
theorem ask_eq (t : Madt) (model : InterruptModel) (q : Query) (cursor : Cursor) :
    MadtPlatform.ask { madt := some t, model } q cursor
      = t.answer ((t.rawFrom cursor.offset).find? q.wants) (t.stopFrom cursor.offset) := by
  suffices hsearch : ∀ offset, t.search q.entryType q.minLength offset
      = ((t.answer ((t.rawFrom offset).find? q.wants) (t.stopFrom offset)).1,
        (t.answer ((t.rawFrom offset).find? q.wants) (t.stopFrom offset)).2.offset) by
    simp only [MadtPlatform.ask, MadtPlatform.search, hsearch]
  intro offset
  induction offset using walk_induction (t := t) with
  | none offset h =>
    rw [search_of_none h, rawFrom_of_none h, stopFrom_of_none h]
    rfl
  | some offset r h ih =>
    rw [search_of_some h, rawFrom_of_some h, stopFrom_of_some h, List.find?_cons]
    cases hwants : q.wants r with
    | true => rfl
    | false => exact ih

/-- **An answer that can be trusted**, wherever the cursor came from. -/
structure Trusty (t : Madt) (q : Query) (cursor : Cursor) (answer : Option MadtEntry × Cursor) :
    Prop where
  /-- The cursor does not go back. -/
  forward : cursor.offset ≤ answer.2.offset
  /-- It moves with every entry. -/
  moves : answer.1.isSome → cursor.offset < answer.2.offset
  /-- It does not move out of the table. -/
  inside : answer.2 = cursor ∨ answer.2.offset ≤ t.bytes.length
  /-- What is answered is an entry wanted that lies in the table, between the two cursors. -/
  shown : ∀ e ∈ answer.1, ∃ r, t.Shows r ∧ q.wants r ∧ t.parseEntry r = e
    ∧ entriesOffset ≤ r.offset ∧ cursor.offset ≤ r.offset ∧ answer.2 = ⟨r.stop⟩

/-- **Every answer can be trusted.** -/
theorem ask_trusty (t : Madt) (model : InterruptModel) (q : Query) (cursor : Cursor) :
    t.Trusty q cursor (MadtPlatform.ask { madt := some t, model } q cursor) := by
  rw [ask_eq]
  cases hfind : (t.rawFrom cursor.offset).find? q.wants with
  | none =>
    obtain ⟨hforward, hinside⟩ := t.stopFrom_bounds cursor.offset
    exact
      { forward := Nat.le_trans (Nat.le_add_right _ _) hforward
        moves := nofun
        inside := hinside.imp_left (congrArg Cursor.mk)
        shown := nofun }
  | some r =>
    have hmem : r ∈ t.rawFrom cursor.offset := List.mem_of_find?_eq_some hfind
    obtain ⟨hlow, -, hshows⟩ := rawEntryAt_eq_some.mp (rawEntryAt_of_mem_rawFrom r hmem)
    -- The entry that is found lies in the tiling behind the cursor, so it begins no earlier.
    have hahead : cursor.offset ≤ r.offset := ((t.tiles_rawFrom cursor.offset).bounds r hmem).1
    have hmoves : cursor.offset < r.stop := Nat.lt_of_le_of_lt hahead hshows.offset_lt_stop
    exact
      { forward := Nat.le_of_lt hmoves
        moves := fun _ => hmoves
        inside := .inr hshows.inside
        shown := by
          rintro _ ⟨⟩
          exact ⟨r, hshows, List.find?_some hfind, rfl, hlow, hahead, rfl⟩ }

/-! ## Searches that share a cursor -/

/-- **The cursor stands between the entries**: they are those it has passed and those ahead. -/
def Between (t : Madt) (offset : Nat) : Prop :=
  ∃ passed, Tiles entriesOffset passed offset ∧ t.raws = passed ++ t.rawFrom offset

theorem between_start (t : Madt) : t.Between Cursor.start.offset :=
  ⟨[], rfl, rfl⟩

/-- The walk ends in one place only. -/
theorem Between.stopFrom_eq (h : t.Between offset) :
    t.stopFrom offset = t.stopFrom entriesOffset := by
  obtain ⟨passed, hpassed, hraws⟩ := h
  unfold stopFrom
  rw [show t.rawFrom entriesOffset = _ from hraws, List.foldl_append, hpassed.foldl_stop]

/-- The entries at or after the cursor are those ahead of it. -/
theorem Between.find?_eq (h : t.Between offset) (q : Query) :
    t.raws.find? (fun r => offset ≤ r.offset && q.wants r) = (t.rawFrom offset).find? q.wants := by
  obtain ⟨passed, hpassed, hraws⟩ := h
  have hbehind : passed.find? (fun r => offset ≤ r.offset && q.wants r) = none := by
    refine List.find?_eq_none.mpr fun r hr => ?_
    have hshows : t.Shows r := shows_of_mem_rawFrom (hraws ▸ List.mem_append_left _ hr)
    have hpast : r.offset < offset :=
      Nat.lt_of_lt_of_le hshows.offset_lt_stop (hpassed.bounds r hr).2
    rw [decide_eq_false (Nat.not_le_of_lt hpast), Bool.false_and]
    exact Bool.false_ne_true
  have hahead : ∀ r ∈ t.rawFrom offset, (decide (offset ≤ r.offset) && q.wants r) = q.wants r := by
    intro r hr
    rw [decide_eq_true ((t.tiles_rawFrom offset).bounds r hr).1, Bool.true_and]
  rw [hraws, List.find?_append, hbehind, Option.none_or, List.find?_congr hahead]

/-- **A search leaves the cursor between the entries.** -/
theorem Between.ask {cursor : Cursor} (h : t.Between cursor.offset) (model : InterruptModel)
    (q : Query) :
    t.Between (MadtPlatform.ask { madt := some t, model } q cursor).2.offset := by
  rw [ask_eq]
  cases hfind : (t.rawFrom cursor.offset).find? q.wants with
  | none =>
    -- All entries are behind the cursor now.
    refine ⟨t.raws, ?_, ?_⟩
    · exact h.stopFrom_eq ▸ t.tiles_rawFrom _
    · exact (t.rawFrom_stopFrom cursor.offset).symm ▸ (List.append_nil _).symm
  | some r =>
    obtain ⟨passed, hpassed, hraws⟩ := h
    -- The entries that were not wanted, and the one that was, are behind it with the others.
    obtain ⟨-, before, after, hsplit, -⟩ := List.find?_eq_some_iff_append.mp hfind
    obtain ⟨rfl, htiles⟩ := rawFrom_split hsplit
    refine ⟨passed ++ (before ++ [r]), hpassed.append htiles, ?_⟩
    rw [hraws, hsplit, List.append_assoc, List.append_assoc]
    rfl

/-- A cursor between two entries stays between entries, whatever is asked. -/
theorem Between.askAll (model : InterruptModel) (qs : List Query) {cursor : Cursor}
    (h : t.Between cursor.offset) :
    t.Between (MadtPlatform.askAll { madt := some t, model } qs cursor).2.offset := by
  induction qs generalizing cursor with
  | nil => exact h
  | cons q qs ih => exact ih (h.ask model q)

/-! ## Equal searches -/

/-- **A search leaves all but the first of the entries wanted** for the searches after it. -/
theorem filter_wants_ask (t : Madt) (model : InterruptModel) (q : Query) (cursor : Cursor) :
    (t.rawFrom (MadtPlatform.ask { madt := some t, model } q cursor).2.offset).filter q.wants
      = ((t.rawFrom cursor.offset).filter q.wants).tail := by
  rw [ask_eq]
  cases hfind : (t.rawFrom cursor.offset).find? q.wants with
  | none =>
    rw [List.filter_eq_nil_iff.mpr (List.find?_eq_none.mp hfind)]
    exact congrArg (List.filter q.wants) (t.rawFrom_stopFrom cursor.offset)
  | some r =>
    obtain ⟨hwants, before, after, hsplit, hbefore⟩ := List.find?_eq_some_iff_append.mp hfind
    have hskipped : before.filter q.wants = [] :=
      List.filter_eq_nil_iff.mpr fun r hr => by simpa using hbefore r hr
    rw [hsplit, List.filter_append, hskipped, List.nil_append, List.filter_cons_of_pos hwants,
      (rawFrom_split hsplit).1]
    rfl

/-- **Equal searches find every entry wanted**, in order, and nothing after the last. -/
theorem askAll_replicate (t : Madt) (model : InterruptModel) (q : Query) (n : Nat)
    (cursor : Cursor) :
    (MadtPlatform.askAll { madt := some t, model } (List.replicate n q) cursor).1
      = (List.range n).map fun i =>
        ((t.rawFrom cursor.offset).filter q.wants)[i]?.map t.parseEntry := by
  induction n generalizing cursor with
  | zero => rfl
  | succ n ih =>
    have hfirst : (MadtPlatform.ask { madt := some t, model } q cursor).1
        = ((t.rawFrom cursor.offset).filter q.wants)[0]?.map t.parseEntry := by
      rw [ask_eq, ← List.head?_eq_getElem?, List.head?_filter]
      rfl
    rw [List.replicate_succ, MadtPlatform.askAll, List.range_succ_eq_map, List.map_cons,
      List.map_map, ← hfirst, ih, filter_wants_ask]
    simp only [List.getElem?_tail]
    rfl

/-- **A run of searches finds every entry wanted**, as far as it goes on. -/
theorem entriesFrom_eq_take (t : Madt) (model : InterruptModel) (q : Query) (fuel : Nat)
    (cursor : Cursor) :
    PlatformTables.entriesFrom ({ madt := some t, model } : MadtPlatform) q.entryType q.minLength
        fuel cursor
      = (((t.rawFrom cursor.offset).filter q.wants).take fuel).map t.parseEntry := by
  induction fuel generalizing cursor with
  | zero => rfl
  | succ fuel ih =>
    have hask : PlatformTables.search ({ madt := some t, model } : MadtPlatform) q.entryType
        q.minLength cursor
        = t.answer ((t.rawFrom cursor.offset).find? q.wants) (t.stopFrom cursor.offset) :=
      ask_eq t model q cursor
    -- An answer leaves the cursor behind the first entry that is wanted, so the filter of what
    -- follows is the tail of the filter.
    have htail := filter_wants_ask t model q cursor
    rw [ask_eq] at htail
    rw [PlatformTables.entriesFrom, hask]
    cases hfind : (t.rawFrom cursor.offset).find? q.wants with
    | none =>
      rw [List.filter_eq_nil_iff.mpr (List.find?_eq_none.mp hfind)]
      rfl
    | some r =>
      rw [hfind] at htail
      have hhead : ((t.rawFrom cursor.offset).filter q.wants).head? = some r :=
        List.head?_filter.trans hfind
      obtain ⟨rest, hrest⟩ := List.head?_eq_some_iff.mp hhead
      rw [hrest, List.tail_cons] at htail
      rw [hrest, List.take_succ_cons, List.map_cons, ← htail]
      exact congrArg _ (ih _)

/-- **A run of searches finds all entries wanted**: there are not so many that it would give up. -/
theorem entriesOf_eq (t : Madt) (model : InterruptModel) (q : Query) :
    PlatformTables.entriesOf ({ madt := some t, model } : MadtPlatform) q.entryType q.minLength
      = (t.raws.filter q.wants).map t.parseEntry := by
  have hfew : (t.raws.filter q.wants).length ≤ t.bytes.length := by
    obtain ⟨hforward, hinside⟩ := t.stopFrom_bounds entriesOffset
    have hraws : t.raws.length = (t.rawFrom entriesOffset).length := rfl
    have hfilter : (t.raws.filter q.wants).length ≤ t.raws.length := List.length_filter_le _ _
    omega
  have htake : (t.raws.filter q.wants).take t.bytes.length = t.raws.filter q.wants :=
    List.take_of_length_le hfew
  rw [← htake]
  exact t.entriesFrom_eq_take model q _ .start

/-- **Searches answer with the entries of the table.** Equal searches from the start answer with
every entry wanted, in order, and with nothing ever after. Whatever was asked before, a search
answers with the first entry wanted at or after the cursor and leaves the cursor just past it, or at
the end of the entries. And wherever the cursor was put, the answer can be trusted. -/
theorem ask_finds_entries (t : Madt) (model : InterruptModel) :
    let p : MadtPlatform := { madt := some t, model }
    (t.entries = t.raws.map t.parseEntry
        ∧ Tiles entriesOffset t.raws (t.stopFrom entriesOffset)
        ∧ ∀ r ∈ t.raws, t.Shows r)
      ∧ (∀ q n, (p.askAll (List.replicate n q) .start).1
          = (List.range n).map fun i => (t.raws.filter q.wants)[i]?.map t.parseEntry)
      ∧ (∀ qs q, let cursor := (p.askAll qs .start).2
          p.ask q cursor
            = t.answer (t.raws.find? fun r => cursor.offset ≤ r.offset && q.wants r)
              (t.stopFrom entriesOffset))
      ∧ ∀ q cursor, t.Trusty q cursor (p.ask q cursor) := by
  refine ⟨⟨t.entriesFrom_eq_map _, t.tiles_rawFrom _, fun r => shows_of_mem_rawFrom⟩,
    fun q n => t.askAll_replicate model q n .start, fun qs q => ?_, t.ask_trusty model⟩
  have hbetween := t.between_start.askAll model qs
  dsimp only
  rw [ask_eq, hbetween.find?_eq, hbetween.stopFrom_eq]

end Madt

end Interrupts.Acpi
